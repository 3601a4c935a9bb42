/-
# Which sats the chunks of a kind hold

The rules of the kinds work on the bounds and the height of a range, on curated
intervals and on lists of sats. What makes a sat one of a kind is said of the sat
alone, with blocks counted as if all were of the size of the first ones. On a range
of one block the two agree: the chunks of a kind hold exactly the sats of the range
that qualify (`QueryRange.OneBlock.evaluateKind_exact`).

The heights that are asked for all belong to the first epoch, in which the count of
blocks is the height. A range of block 9 is cut only above, and its other end is
inside of the block.

Key definition: `QueryRange.Exact`.
Key theorem: `QueryRange.OneBlock.evaluateKind_exact`.
-/
import RareSats.Proofs.Curated
import RareSats.Proofs.Palindrome
import RareSats.Proofs.WholeCoin
import RareSats.Report.Build

namespace RareSats

theorem evaluatePalindromes_of_found {q : QueryRange} {found : List Int}
    (hheight : DigitLimit.standard.writes q.height = true)
    (h : palindromes q.start (q.stop - 1) = .ok found) : evaluatePalindromes q = .ok [
      ⟨.palindrome, Chunk.singles found⟩,
      ⟨.perfectPalinception, Chunk.singles (found.filter (isPerfectPalinception ∘ decimal))⟩,
      ⟨.uniformPalinception, Chunk.singles (found.filter (isUniformPalinception ∘ decimal))⟩,
      ⟨.paliblockPalindrome, if isPalindrome q.height then Chunk.singles found else []⟩] := by
  rw [evaluatePalindromes, checkPalindrome, if_pos hheight, h]
  rfl

namespace QueryRange

/-- The chunks hold exactly the sats of the range that have a property. -/
def Exact (q : QueryRange) (P : Sat → Prop) (chunks : List Chunk) : Prop :=
  ∀ n, Chunk.SomeHolds chunks n ↔
    q.start ≤ n ∧ n < q.stop ∧ ∃ s : Sat, (s.index : Int) = n ∧ P s

namespace OneBlock

variable {q : QueryRange} (hq : q.OneBlock) {P : Sat → Prop}

include hq

/-- It is enough to look at sats of the range, all of which are of its height. -/
theorem exact_of_sats {chunks : List Chunk}
    (hinside : ∀ n, Chunk.SomeHolds chunks n → q.start ≤ n ∧ n < q.stop)
    (hsats : ∀ s : Sat, q.start ≤ s.index → (s.index : Int) < q.stop → q.height = s.height →
      (Chunk.SomeHolds chunks s.index ↔ P s)) : q.Exact P chunks := by
  intro n
  refine ⟨fun hn => ?_, fun h => ?_⟩
  · obtain ⟨hlo, hhi⟩ := hinside n hn
    obtain ⟨s, rfl, hheight⟩ := hq.exists_sat hlo hhi
    exact ⟨hlo, hhi, s, rfl, (hsats s hlo hhi hheight).mp hn⟩
  · obtain ⟨hlo, hhi, s, rfl, hs⟩ := h
    exact (hsats s hlo hhi (hq.height_eq s hlo hhi)).mpr hs

theorem exact_wholeIf {isOfKind : Bool}
    (h : ∀ s : Sat, q.height = s.height → (isOfKind = true ↔ P s)) :
    q.Exact P (if isOfKind then q.whole else []) := by
  refine hq.exact_of_sats (fun n hn => ?_) (fun s hlo hhi hheight => ?_)
  · obtain ⟨c, hc, hcn⟩ := hn
    cases hkind : isOfKind with
    | false => simp [hkind] at hc
    | true =>
      obtain rfl : c = ⟨q.start, q.stop⟩ := by simpa [hkind, whole] using hc
      exact hcn
  · rw [← h s hheight]
    cases hkind : isOfKind with
    | false => simp [Chunk.SomeHolds]
    | true => simp [Chunk.SomeHolds, whole, Chunk.Holds, hlo, hhi]

/-- A height of the first epoch is that of the sats whose block is counted so. -/
theorem exact_at_height {height : Nat} (hheight : height < halvingInterval) :
    q.Exact (fun s => s.index / initialSubsidy = height)
      (if decide (q.height = height) then q.whole else []) := by
  refine hq.exact_wholeIf fun s hs => ?_
  rw [decide_eq_true_iff, ← Sat.height_eq_iff_div hheight]
  omega

/-- The part of a block before a sat of it. The clip has no lower end, and needs none: the range
starts inside of the block. -/
theorem exact_partBefore (height limit : Nat) (hlimit : limit ≤ blockStart (height + 1)) :
    q.Exact (fun s => blockStart height ≤ s.index ∧ s.index < limit)
      (if q.height = height then partBefore limit q else []) := by
  refine hq.exact_of_sats (fun n hn => ?_) (fun s hlo hhi hheight => ?_)
  · obtain ⟨c, hc, hlo, hhi⟩ := hn
    by_cases hblock : q.height = height ∧ q.start < limit
    · obtain rfl : c = ⟨q.start, min (limit : Int) q.stop⟩ := by simpa [partBefore, hblock] using hc
      simp only at hlo hhi
      omega
    · rcases Decidable.not_and_iff_or_not.mp hblock with hne | hge
      · simp [hne] at hc
      · simp [partBefore, hge] at hc
  · have hplace := s.height_eq_iff (h := height)
    by_cases hblock : q.height = height
    · by_cases hstart : q.start < limit
      · have hiff : Chunk.SomeHolds [⟨q.start, min (limit : Int) q.stop⟩] s.index ↔
            s.index < limit := by
          simp only [Chunk.SomeHolds, List.mem_singleton, exists_eq_left, Chunk.Holds]
          omega
        rw [if_pos hblock, partBefore, if_pos hstart, hiff]
        omega
      · rw [if_pos hblock, partBefore, if_neg hstart]
        refine iff_of_false (fun h => by simp [Chunk.SomeHolds] at h) (fun h => ?_)
        omega
    · rw [if_neg hblock]
      refine iff_of_false (fun h => by simp [Chunk.SomeHolds] at h) (fun h => ?_)
      omega

/-- One chunk for each sat that was found is exact for what the sats were found for. -/
theorem exact_singles {found : List Int} {R : Int → Prop}
    (hfound : ∀ n, n ∈ found ↔ q.start ≤ n ∧ n < q.stop ∧ R n)
    (hsats : ∀ s : Sat, q.height = s.height → (R s.index ↔ P s)) :
    q.Exact P (Chunk.singles found) := by
  refine hq.exact_of_sats (fun n hn => ?_) (fun s hlo hhi hheight => ?_)
  · obtain ⟨hlo, hhi, -⟩ := (hfound n).mp (Chunk.someHolds_singles.mp hn)
    exact ⟨hlo, hhi⟩
  · rw [Chunk.someHolds_singles, hfound, hsats s hheight]
    exact ⟨fun h => h.2.2, fun h => ⟨hlo, hhi, h⟩⟩

/-! ### The kinds -/

theorem exact_vintage :
    q.Exact (Qualifies .vintage) (if decide (q.height ≤ vintageHeight) then q.whole else []) := by
  refine hq.exact_wholeIf fun s hs => ?_
  have hdiv := Sat.height_lt_iff_div (s := s) (h := 1001) (by decide)
  rw [decide_eq_true_iff, vintageHeight]
  show q.height ≤ 1000 ↔ s.index / initialSubsidy ≤ 1000
  omega

theorem exact_nakamoto : q.Exact (Qualifies .nakamoto)
    (if nakamotoHeights.any (fun h => decide (q.height = h)) then q.whole else []) := by
  refine hq.exact_wholeIf fun s hs => ?_
  show _ ↔ s.index / initialSubsidy ∈ nakamotoHeights
  have hearly : ∀ h ∈ nakamotoHeights, h < halvingInterval := by decide
  simp only [List.any_eq_true, decide_eq_true_iff]
  refine ⟨fun hany => ?_, fun hmem => ?_⟩
  · obtain ⟨h, hmem, hheight⟩ := hany
    have hdiv := (Sat.height_eq_iff_div (s := s) (hearly h hmem)).mp (by omega)
    rwa [hdiv]
  · refine ⟨_, hmem, ?_⟩
    have hdiv := (Sat.height_eq_iff_div (s := s) (hearly _ hmem)).mpr rfl
    omega

theorem exact_pizza :
    q.Exact (Qualifies .pizza) (Chunk.intersect q.start q.stop
      (chunksAt initialSubsidy pizzaRanges q.height)) := by
  rw [hq.intersect_chunksAt pizzaRanges_inEarlyBlock]
  refine hq.exact_of_sats (fun n hn => (Chunk.someHolds_intersect.mp hn).2) ?_
  intro s hlo hhi _
  rw [Chunk.someHolds_intersect]
  exact ⟨fun h => h.1, fun h => ⟨h, hlo, hhi⟩⟩

theorem exists_palindromes : ∃ found, palindromes q.start (q.stop - 1) = .ok found ∧
    ∀ n, n ∈ found ↔ q.start ≤ n ∧ n < q.stop ∧ ReadsBothWays (decimal n) := by
  have hlt := hq.start_lt_stop
  obtain ⟨found, hfound⟩ :=
    palindromes_ok hq.nonneg (show q.start ≤ q.stop - 1 by omega) hq.writes_last
  refine ⟨found, hfound, fun n => ?_⟩
  rw [mem_palindromes hfound]
  refine ⟨fun h => ?_, fun h => ?_⟩
  · obtain ⟨hlo, hhi, hpal⟩ := h
    exact ⟨hlo, by omega, hpal⟩
  · obtain ⟨hlo, hhi, hpal⟩ := h
    exact ⟨hlo, by omega, hpal⟩

/-- Some of the palindromes of a range. -/
theorem exact_palindromes {found : List Int} (p : List Char → Bool)
    (hfound : ∀ n, n ∈ found ↔ q.start ≤ n ∧ n < q.stop ∧ ReadsBothWays (decimal n)) :
    q.Exact (fun s => ReadsBothWays (digits s.index) ∧ p (digits s.index) = true)
      (Chunk.singles (found.filter (p ∘ decimal))) := by
  refine hq.exact_singles (R := fun n => ReadsBothWays (decimal n) ∧ p (decimal n) = true) ?_ ?_
  · intro n
    rw [List.mem_filter, hfound]
    simp only [Function.comp_apply, and_assoc]
  · intro s _
    rfl

theorem exact_paliblock {found : List Int}
    (hfound : ∀ n, n ∈ found ↔ q.start ≤ n ∧ n < q.stop ∧ ReadsBothWays (decimal n)) :
    q.Exact (Qualifies .paliblockPalindrome)
      (if isPalindrome q.height then Chunk.singles found else []) := by
  cases hblock : isPalindrome q.height with
  | true =>
    refine hq.exact_singles hfound fun s hs => ?_
    rw [hs] at hblock
    exact ⟨fun h => ⟨h, of_decide_eq_true hblock⟩, fun h => h.1⟩
  | false =>
    refine hq.exact_of_sats (fun n hn => ?_) (fun s _ _ hs => ?_)
    · simp [Chunk.SomeHolds] at hn
    · rw [hs] at hblock
      refine iff_of_false (fun h => ?_) (fun h => of_decide_eq_false hblock h.2)
      simp [Chunk.SomeHolds] at h

theorem exact_alpha {found : List Int} (hfound : alphas q.start q.stop coinValue = .ok found) :
    q.Exact (Qualifies .alpha) (Chunk.singles found) := by
  refine hq.exact_singles (fun n => mem_alphas (by decide) hfound) fun s _ => ?_
  rw [Int.natCast_dvd_natCast]
  exact Nat.dvd_iff_mod_eq_zero

theorem exact_omega {found : List Int} (hfound : omegas q.start q.stop coinValue = .ok found) :
    q.Exact (Qualifies .omega) (Chunk.singles found) := by
  refine hq.exact_singles (fun n => mem_omegas (by decide) hfound) fun s _ => ?_
  rw [← Int.natCast_succ, Int.natCast_dvd_natCast]
  exact Nat.dvd_iff_mod_eq_zero

/-- **The chunks of a kind hold exactly the sats of the range that qualify**, and there always are
chunks, be it none. -/
theorem evaluateKind_exact (kind : RarityKind) :
    ∃ chunks, evaluateKind kind q = .ok chunks ∧ q.Exact (Qualifies kind) chunks := by
  obtain ⟨found, hpal, hfound⟩ := hq.exists_palindromes
  have hentries := evaluatePalindromes_of_found hq.writes_height hpal
  cases kind with
  | vintage => exact ⟨_, rfl, hq.exact_vintage⟩
  | nakamoto => exact ⟨_, rfl, hq.exact_nakamoto⟩
  | block9 =>
    refine ⟨if decide (q.height = (9 : Nat)) then q.whole else [], ?_, hq.exact_at_height (by decide)⟩
    by_cases hblock : q.height = 9 <;> simp [evaluateKind, evaluate, hblock] <;> rfl
  | block9_450 =>
    refine ⟨if q.height = (9 : Nat) then partBefore block9_450End q else [], ?_,
      hq.exact_partBefore 9 45100000000 (by decide)⟩
    by_cases hblock : q.height = 9 <;> simp [evaluateKind, evaluate, hblock] <;> rfl
  | block78 => exact ⟨_, rfl, hq.exact_at_height (by decide)⟩
  | firstTransaction =>
    refine ⟨if q.height = (9 : Nat) then partBefore firstTransactionEnd q else [], ?_,
      hq.exact_partBefore 9 46000000000 (by decide)⟩
    by_cases hblock : q.height = 9 <;> simp [evaluateKind, evaluate, hblock] <;> rfl
  | pizza =>
    exact ⟨_, by rw [evaluateKind, evaluate, evaluateCurated, curatedRanges_pizza]; rfl,
      hq.exact_pizza⟩
  | palindrome =>
    exact ⟨_, by rw [evaluateKind, evaluate, hentries]; rfl,
      hq.exact_singles hfound fun s _ => Iff.rfl⟩
  | perfectPalinception =>
    exact ⟨_, by rw [evaluateKind, evaluate, hentries]; rfl, hq.exact_palindromes _ hfound⟩
  | uniformPalinception =>
    exact ⟨_, by rw [evaluateKind, evaluate, hentries]; rfl, hq.exact_palindromes _ hfound⟩
  | paliblockPalindrome =>
    exact ⟨_, by rw [evaluateKind, evaluate, hentries]; rfl, hq.exact_paliblock hfound⟩
  | alpha =>
    obtain ⟨alphas, halphas⟩ := alphas_ok q.start q.stop (show 0 < (coinValue : Int) by decide)
    exact ⟨_, by rw [evaluateKind, evaluate, halphas]; rfl, hq.exact_alpha halphas⟩
  | omega =>
    obtain ⟨omegas, homegas⟩ := omegas_ok q.start q.stop (show 0 < (coinValue : Int) by decide)
    exact ⟨_, by rw [evaluateKind, evaluate, homegas]; rfl, hq.exact_omega homegas⟩
  | block286 => exact ⟨_, rfl, hq.exact_at_height (by decide)⟩
  | block666 => exact ⟨_, rfl, hq.exact_at_height (by decide)⟩

end OneBlock

end QueryRange

end RareSats
