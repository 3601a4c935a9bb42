/-
# How a report is arranged

The entries of a report are in the order of the kinds, so no kind has two of them,
and each has a chunk. The chunks of an entry lie inside of the range, hold a sat each
and follow one another without a sat in common, upwards or, for the omegas alone,
downwards (`report_arranged`).

The chunks of a kind come about in one of three ways: a single chunk that is the range
or its first part, the parts of curated intervals inside of the range, or the sats that
a search has found. Each of them leads to chunks that are arranged so. This is seen
rule by rule (`evaluate_arranged`), and a report takes the entries as the rules give
them (`evaluateAll_arranged`).

Key definitions: `RarityKind.rank`, `RarityKind.Precedes`, `Entry.Arranged`.
Key theorems: `evaluate_arranged`, `report_arranged`.
-/
import RareSats.Proofs.Report

namespace RareSats

/-- The place of a kind in the order of the kinds. -/
def RarityKind.rank (kind : RarityKind) : Nat :=
  RarityKind.all.idxOf kind

/-- How one chunk of a kind stands to the chunks that are listed after it. -/
def RarityKind.Precedes (kind : RarityKind) (c d : Chunk) : Prop :=
  if kind = .omega then d.Before c else c.Before d

theorem RarityKind.Precedes.not_holds {kind : RarityKind} {c d : Chunk} (h : kind.Precedes c d)
    (n : Int) : ¬ (c.Holds n ∧ d.Holds n) := by
  unfold Precedes at h
  split at h
  · exact fun hn => h.not_holds n hn.symm
  · exact h.not_holds n

/-- The chunks of an entry lie inside of the range and follow one another. -/
structure Entry.Arranged (q : QueryRange) (e : Entry) : Prop where
  inside : ∀ c ∈ e.chunks, c.Inside q.start q.stop
  precedes : e.chunks.Pairwise e.kind.Precedes

/-! ### The ways in which chunks come about -/

section

variable {q : QueryRange} {kind : RarityKind}

theorem arranged_nil (q : QueryRange) (kind : RarityKind) : Entry.Arranged q ⟨kind, []⟩ :=
  ⟨fun _ hc => absurd hc List.not_mem_nil, List.Pairwise.nil⟩

theorem arranged_singleton {c : Chunk} (hc : c.Inside q.start q.stop) :
    Entry.Arranged q ⟨kind, [c]⟩ :=
  ⟨List.forall_mem_singleton.mpr hc, List.pairwise_singleton _ _⟩

theorem arranged_whole (hlt : q.start < q.stop) : Entry.Arranged q ⟨kind, q.whole⟩ :=
  arranged_singleton ⟨Int.le_refl _, hlt, Int.le_refl _⟩

theorem arranged_wholeIf (hlt : q.start < q.stop) (isOfKind : Bool) :
    (wholeIf kind q isOfKind).Arranged q := by
  cases isOfKind with
  | true => exact arranged_whole hlt
  | false => exact arranged_nil q kind

theorem arranged_partBefore (hlt : q.start < q.stop) (limit : Int) :
    Entry.Arranged q ⟨kind, partBefore limit q⟩ := by
  unfold partBefore
  split
  · exact arranged_singleton ⟨Int.le_refl _, by simp only; omega, Int.min_le_right _ _⟩
  · exact arranged_nil q kind

/-- Curated intervals that are listed upwards have their parts listed upwards. -/
theorem arranged_intersect (hlt : q.start < q.stop) {chunks : List Chunk}
    (hne : ∀ c ∈ chunks, c.lo < c.hi) (hbefore : chunks.Pairwise Chunk.Before)
    (hkind : kind ≠ .omega) :
    Entry.Arranged q ⟨kind, Chunk.intersect q.start q.stop chunks⟩ := by
  refine ⟨Chunk.intersect_inside hlt hne, (Chunk.intersect_before hbefore).imp fun h => ?_⟩
  rwa [RarityKind.Precedes, if_neg hkind]

theorem arranged_upwards {found : List Int} (hfound : ∀ n ∈ found, q.start ≤ n ∧ n < q.stop)
    (hup : found.Pairwise (· < ·)) (hkind : kind ≠ .omega) :
    Entry.Arranged q ⟨kind, Chunk.singles found⟩ := by
  refine ⟨Chunk.singles_inside hfound, (Chunk.singles_before hup).imp fun h => ?_⟩
  rwa [RarityKind.Precedes, if_neg hkind]

theorem arranged_downwards {found : List Int} (hfound : ∀ n ∈ found, q.start ≤ n ∧ n < q.stop)
    (hdown : found.Pairwise (· > ·)) : Entry.Arranged q ⟨.omega, Chunk.singles found⟩ :=
  ⟨Chunk.singles_inside hfound, Chunk.singles_after hdown⟩

end

/-! ### The rules -/

variable {q : QueryRange} (hq : q.OneBlock)

include hq

theorem evaluatePalindromes_arranged {entries : List Entry}
    (h : evaluatePalindromes q = .ok entries) : ∀ e ∈ entries, e.Arranged q := by
  obtain ⟨found, hpal, hmem⟩ := hq.exists_palindromes
  have hup := palindromes_pairwise hpal
  have hrange : ∀ n ∈ found, q.start ≤ n ∧ n < q.stop := fun n hn =>
    ⟨((hmem n).mp hn).1, ((hmem n).mp hn).2.1⟩
  have hfilter : ∀ p : Int → Bool, ∀ n ∈ found.filter p, q.start ≤ n ∧ n < q.stop :=
    fun p n hn => hrange n (List.mem_of_mem_filter hn)
  -- the palinceptions are some of the palindromes, in the same order
  rw [evaluatePalindromes_of_found hq.writes_height hpal] at h
  cases h
  simp only [List.forall_mem_cons, List.not_mem_nil, false_implies, implies_true, and_true]
  refine ⟨arranged_upwards hrange hup (by decide),
    arranged_upwards (hfilter _) (hup.filter _) (by decide),
    arranged_upwards (hfilter _) (hup.filter _) (by decide), ?_⟩
  split
  · exact arranged_upwards hrange hup (by decide)
  · exact arranged_nil q _

theorem evaluatePizza_arranged {entries : List Entry}
    (h : evaluateCurated .pizza (curatedRanges .pizza) q = .ok entries) :
    ∀ e ∈ entries, e.Arranged q := by
  rw [evaluateCurated, curatedRanges_pizza] at h
  cases h
  refine List.forall_mem_singleton.mpr (arranged_intersect hq.start_lt_stop (fun c hc => ?_)
    (pizzaRanges_before.filter _) (by decide))
  exact (pizzaRanges_inEarlyBlock c (List.mem_of_mem_filter hc)).lo_lt_hi

/-- **Every rule arranges the chunks of its entries.** -/
theorem evaluate_arranged {kind : RarityKind} {entries : List Entry}
    (h : evaluate kind q = .ok entries) : ∀ e ∈ entries, e.Arranged q := by
  have hlt := hq.start_lt_stop
  cases kind with
  | vintage | nakamoto | block78 | block286 | block666 =>
    cases h
    exact List.forall_mem_singleton.mpr (arranged_wholeIf hlt _)
  | block9 | block9_450 =>
    rw [evaluate] at h
    split at h
    · cases h
      exact List.forall_mem_cons.mpr ⟨arranged_whole hlt,
        List.forall_mem_singleton.mpr (arranged_partBefore hlt _)⟩
    · cases h
      exact fun e he => absurd he List.not_mem_nil
  | firstTransaction =>
    rw [evaluate] at h
    split at h
    · cases h
      exact List.forall_mem_singleton.mpr (arranged_partBefore hlt _)
    · cases h
      exact fun e he => absurd he List.not_mem_nil
  | pizza => exact evaluatePizza_arranged hq h
  | palindrome | perfectPalinception | uniformPalinception | paliblockPalindrome =>
    exact evaluatePalindromes_arranged hq h
  | alpha =>
    obtain ⟨found, hfound⟩ := alphas_ok q.start q.stop (show 0 < (coinValue : Int) by decide)
    rw [evaluate, hfound] at h
    cases h
    refine List.forall_mem_singleton.mpr (arranged_upwards (fun n hn => ?_)
      (alphas_pairwise (by decide) hfound) (by decide))
    have hn := (mem_alphas (by decide) hfound).mp hn
    exact ⟨hn.1, hn.2.1⟩
  | omega =>
    obtain ⟨found, hfound⟩ := omegas_ok q.start q.stop (show 0 < (coinValue : Int) by decide)
    rw [evaluate, hfound] at h
    cases h
    refine List.forall_mem_singleton.mpr (arranged_downwards (fun n hn => ?_)
      (omegas_pairwise (by decide) hfound))
    have hn := (mem_omegas (by decide) hfound).mp hn
    exact ⟨hn.1, hn.2.1⟩

/-- One rule after the other, the entries stay arranged. -/
theorem evaluateAll_arranged {kinds : List RarityKind} {entries : List Entry}
    (h : evaluateAll q kinds = .ok entries) : ∀ e ∈ entries, e.Arranged q := by
  induction kinds generalizing entries with
  | nil =>
    cases h
    exact fun e he => absurd he List.not_mem_nil
  | cons kind rest ih =>
    rw [evaluateAll] at h
    cases hfirst : evaluate kind q with
    | error e => rw [hfirst] at h; cases h
    | ok first =>
      cases hrest : evaluateAll q rest with
      | error e => rw [hfirst, hrest] at h; cases h
      | ok others =>
        rw [hfirst, hrest] at h
        cases h
        intro e he
        rcases List.mem_append.mp he with he | he
        · exact evaluate_arranged hq hfirst e he
        · exact ih hrest e he

/-! ### The report -/

omit hq

theorem all_rank : RarityKind.all.Pairwise fun j k => j.rank < k.rank := by decide

/-- **A report is arranged.** Every range of one block has a report. Its entries are in the order of
the kinds and have a chunk each. The chunks of an entry lie inside of the range, no two of them hold
a sat in common, and they are listed upwards, those of the omegas downwards. -/
theorem report_arranged {start stop : Int} (h : QueryRange.of start stop = .ok q) :
    ∃ entries, report start stop = .ok entries ∧
      entries.Pairwise (fun d e => d.kind.rank < e.kind.rank) ∧
      ∀ e ∈ entries, e.chunks ≠ [] ∧ (∀ c ∈ e.chunks, c.Inside start stop) ∧
        (e.chunks.Pairwise fun c d => ∀ n, ¬ (c.Holds n ∧ d.Holds n)) ∧
        e.chunks.Pairwise e.kind.Precedes := by
  obtain ⟨rfl, rfl, hq⟩ := QueryRange.of_eq_ok_iff.mp h
  refine ⟨_, report_of_accepted h, ?_, fun e he => ?_⟩
  · refine List.Pairwise.filter _ (List.pairwise_map.mpr ?_)
    exact all_rank
  · have hne := (mem_listed_iff.mp he).2
    -- what the report lists is among what the rules give
    obtain ⟨entries, hentries, hlisted⟩ := evaluateAll_listed hq fun k hk => hk
    rw [← flatMap_ofRule, ← hlisted] at he
    have harranged := evaluateAll_arranged hq hentries e (List.mem_of_mem_filter he)
    exact ⟨hne, harranged.inside, harranged.precedes.imp fun hcd => hcd.not_holds,
      harranged.precedes⟩

/-- The report of three coins of block 9. -/
theorem report_arranged_in_block9 :
    QueryRange.of 45000000000 45300000000 = .ok ⟨45000000000, 45300000000, 9⟩ ∧
    ∃ entries, report 45000000000 45300000000 = .ok entries ∧
      entries.Pairwise (fun d e => d.kind.rank < e.kind.rank) ∧
      ∀ e ∈ entries, e.chunks ≠ [] ∧ (∀ c ∈ e.chunks, c.Inside 45000000000 45300000000) ∧
        (e.chunks.Pairwise fun c d => ∀ n, ¬ (c.Holds n ∧ d.Holds n)) ∧
        e.chunks.Pairwise e.kind.Precedes := by
  have h : QueryRange.of 45000000000 45300000000 = .ok ⟨45000000000, 45300000000, 9⟩ := rfl
  exact ⟨h, report_arranged h⟩

end RareSats
