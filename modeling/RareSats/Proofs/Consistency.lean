/-
# How the kinds of a report stand to one another

The chunks of a kind hold the sats that qualify for it, so what one sat can be tells
which kinds share sats: no sat is the first and the last one of a coin, a palindrome
that ends with a zero is zero, and the first coins of block 9 are among its first
payments (`someHolds_kindChunks_and`, `someHolds_of_qualifies`). The lists of chunks
themselves are compared where one search or one height decides several kinds. The
palinceptions are filtered out of the same palindromes, and every perfect one is
uniform; a height decides on the whole of a range or on nothing, and block 9 is both
vintage and one of the first miner. All pizza sats come from later blocks than the
vintage ones.

Key definition: `KindsAgree`.
Key theorems: `someHolds_kindChunks_and`, `qualifies_alpha_and_palindrome_iff`,
`exists_palindrome_chunks`, `vintageHeight_lt_of_pizza`, `report_kinds_agree`.
-/
import RareSats.Proofs.Palinception
import RareSats.Proofs.Place
import RareSats.Proofs.Report

namespace RareSats

/-! ### Sats of two kinds -/

theorem not_qualifies_alpha_and_omega (s : Sat) :
    ¬ (Qualifies .alpha s ∧ Qualifies .omega s) := by
  rintro ⟨halpha, homega⟩
  change s.index % coinValue = 0 at halpha
  change (s.index + 1) % coinValue = 0 at homega
  unfold coinValue at halpha homega
  omega

/-- A palindrome ends with a zero only if it starts with one. -/
theorem eq_zero_of_readsBothWays {n : Nat} (h : ReadsBothWays (digits n)) (hzero : n % 10 = 0) :
    n = 0 := by
  by_contra hne
  have hlast : digits n = digits (n / 10) ++ ['0'] := by
    rw [digits_of_ten_le (by omega), hzero]
    rfl
  have hfirst : (digits n).head? = some '0' := by
    rw [← h, hlast, List.reverse_append]
    rfl
  exact head?_digits_ne_zero (by omega) hfirst

theorem qualifies_alpha_and_palindrome_iff (s : Sat) :
    Qualifies .alpha s ∧ Qualifies .palindrome s ↔ s.index = 0 := by
  constructor
  · rintro ⟨halpha, hpalindrome⟩
    change s.index % coinValue = 0 at halpha
    refine eq_zero_of_readsBothWays hpalindrome ?_
    unfold coinValue at halpha
    omega
  · intro hzero
    unfold Qualifies
    rw [hzero]
    exact ⟨rfl, rfl⟩

theorem firstTransaction_of_block9_450 {s : Sat} (h : Qualifies .block9_450 s) :
    Qualifies .firstTransaction s :=
  ⟨h.1, Nat.lt_trans h.2 (by decide)⟩

theorem block9_of_firstTransaction {s : Sat} (h : Qualifies .firstTransaction s) :
    Qualifies .block9 s := by
  obtain ⟨hlo, hhi⟩ := h
  show s.index / initialSubsidy = 9
  have hsubsidy : initialSubsidy = 5000000000 := by decide
  rw [hsubsidy]
  omega

section

variable {q : QueryRange} (hq : q.OneBlock) {kind kind' : RarityKind} {n : Int}

include hq

/-- A sat lies in chunks of two kinds exactly if it is a sat of the range that qualifies for both. -/
theorem someHolds_kindChunks_and :
    Chunk.SomeHolds (kindChunks q kind) n ∧ Chunk.SomeHolds (kindChunks q kind') n ↔
      q.start ≤ n ∧ n < q.stop ∧
        ∃ s : Sat, (s.index : Int) = n ∧ Qualifies kind s ∧ Qualifies kind' s := by
  rw [kindChunks_exact hq kind n, kindChunks_exact hq kind' n]
  constructor
  · rintro ⟨⟨hlo, hhi, s, hs, hkind⟩, -, -, t, ht, hkind'⟩
    obtain rfl : t = s := Sat.index_injective (by omega)
    exact ⟨hlo, hhi, t, ht, hkind, hkind'⟩
  · rintro ⟨hlo, hhi, s, hs, hkind, hkind'⟩
    exact ⟨⟨hlo, hhi, s, hs, hkind⟩, hlo, hhi, s, hs, hkind'⟩

/-- A kind that every sat of another kind is of holds the sats of the other kind. -/
theorem someHolds_of_qualifies (himp : ∀ s, Qualifies kind s → Qualifies kind' s)
    (h : Chunk.SomeHolds (kindChunks q kind) n) : Chunk.SomeHolds (kindChunks q kind') n := by
  obtain ⟨hlo, hhi, s, hs, hkind⟩ := (kindChunks_exact hq kind n).mp h
  exact (kindChunks_exact hq kind' n).mpr ⟨hlo, hhi, s, hs, himp s hkind⟩

end

/-! ### Kinds that are decided together -/

theorem exists_palindrome_chunks {q : QueryRange} (hq : q.OneBlock) : ∃ found : List Int,
    kindChunks q .palindrome = Chunk.singles found ∧
    kindChunks q .perfectPalinception =
      Chunk.singles (found.filter (isPerfectPalinception ∘ decimal)) ∧
    kindChunks q .uniformPalinception =
      Chunk.singles (found.filter (isUniformPalinception ∘ decimal)) ∧
    kindChunks q .paliblockPalindrome =
      if isPalindrome q.height then Chunk.singles found else [] := by
  obtain ⟨found, hfound, -⟩ := hq.exists_palindromes
  have hentries := evaluatePalindromes_of_found hq.writes_height hfound
  exact ⟨found, kindChunks_of_evaluate .palindrome hentries,
    kindChunks_of_evaluate .perfectPalinception hentries,
    kindChunks_of_evaluate .uniformPalinception hentries,
    kindChunks_of_evaluate .paliblockPalindrome hentries⟩

theorem singles_sublist {sats others : List Int} (h : sats.Sublist others) :
    (Chunk.singles sats).Sublist (Chunk.singles others) :=
  h.map _

/-- The palinceptions are listed in the order of the palindromes, and the perfect ones among the
uniform ones. -/
theorem palinceptions_sublist {q : QueryRange} (hq : q.OneBlock) :
    (kindChunks q .perfectPalinception).Sublist (kindChunks q .uniformPalinception) ∧
    (kindChunks q .uniformPalinception).Sublist (kindChunks q .palindrome) := by
  obtain ⟨found, hpalindrome, hperfect, huniform, -⟩ := exists_palindrome_chunks hq
  rw [hpalindrome, hperfect, huniform]
  refine ⟨singles_sublist (List.monotone_filter_right found fun n hn => ?_),
    singles_sublist List.filter_sublist⟩
  exact isUniform_of_isPerfect hn

theorem paliblock_eq_palindrome {q : QueryRange} (hq : q.OneBlock)
    (h : kindChunks q .paliblockPalindrome ≠ []) :
    kindChunks q .paliblockPalindrome = kindChunks q .palindrome := by
  obtain ⟨found, hpalindrome, -, -, hpaliblock⟩ := exists_palindrome_chunks hq
  rw [hpaliblock] at h ⊢
  split
  · exact hpalindrome.symm
  · rename_i hblock
    exact absurd (if_neg hblock) h

/-! ### Kinds that a height decides -/

theorem vintage_chunks (q : QueryRange) :
    kindChunks q .vintage = if decide (q.height ≤ vintageHeight) then q.whole else [] := rfl

theorem whole_of_block9 {q : QueryRange} (h : kindChunks q .block9 ≠ []) :
    kindChunks q .block9 = q.whole ∧ kindChunks q .vintage = q.whole ∧
      kindChunks q .nakamoto = q.whole := by
  by_cases hheight : q.height = 9
  · obtain ⟨start, stop, height⟩ := q
    subst hheight
    exact ⟨rfl, rfl, rfl⟩
  · have hentries : evaluate .block9 q = .ok [] := if_neg hheight
    exact absurd (kindChunks_of_evaluate .block9 hentries) h

theorem pizzaBounds_late : ∀ b ∈ pizzaBounds, 1000 < b.1 / initialSubsidy := by decide +kernel

theorem vintageHeight_lt_of_pizza {q : QueryRange} (h : kindChunks q .pizza ≠ []) :
    vintageHeight < q.height := by
  have hentries : evaluate .pizza q = .ok [⟨.pizza, Chunk.intersect q.start q.stop
      (chunksAt initialSubsidy pizzaRanges q.height)⟩] := by
    rw [evaluate, evaluateCurated, curatedRanges_pizza]
    rfl
  rw [kindChunks_of_evaluate .pizza hentries] at h
  obtain ⟨d, hd⟩ := List.exists_mem_of_ne_nil _ h
  obtain ⟨c, hc, -⟩ := List.mem_filterMap.mp hd
  -- the interval is filed under the height of the range
  obtain ⟨hmem, hheight⟩ := List.mem_filter.mp hc
  obtain ⟨b, hb, rfl⟩ := List.mem_map.mp hmem
  have hlate := pizzaBounds_late b hb
  have hpos : (0 : Int) ≤ initialSubsidy := Int.natCast_nonneg _
  rw [decide_eq_true_iff, Int.fdiv_eq_ediv_of_nonneg _ hpos] at hheight
  simp only [← Int.natCast_ediv] at hheight
  unfold vintageHeight
  omega

/-! ### The report -/

/-- How the chunks of the kinds stand to one another in a range from `start` to `stop`. -/
structure KindsAgree (start stop : Int) (chunks : RarityKind → List Chunk) : Prop where
  perfect_sublist_uniform :
    (chunks .perfectPalinception).Sublist (chunks .uniformPalinception)
  uniform_sublist_palindrome : (chunks .uniformPalinception).Sublist (chunks .palindrome)
  /-- The palindromes are listed once more for their block, or not at all. -/
  paliblock_eq_palindrome :
    chunks .paliblockPalindrome ≠ [] → chunks .paliblockPalindrome = chunks .palindrome
  not_alpha_and_omega :
    ∀ n, ¬ (Chunk.SomeHolds (chunks .alpha) n ∧ Chunk.SomeHolds (chunks .omega) n)
  /-- The first sat of all is both an alpha and a palindrome, and no other one is. -/
  alpha_and_palindrome_iff : ∀ n, Chunk.SomeHolds (chunks .alpha) n ∧
    Chunk.SomeHolds (chunks .palindrome) n ↔ n = 0 ∧ start = 0
  firstTransaction_of_block9_450 :
    ∀ n, Chunk.SomeHolds (chunks .block9_450) n → Chunk.SomeHolds (chunks .firstTransaction) n
  block9_of_firstTransaction :
    ∀ n, Chunk.SomeHolds (chunks .firstTransaction) n → Chunk.SomeHolds (chunks .block9) n
  /-- A range of block 9 is vintage and one of the first miner, as a whole. -/
  whole_of_block9 : chunks .block9 ≠ [] → chunks .block9 = [⟨start, stop⟩] ∧
    chunks .vintage = [⟨start, stop⟩] ∧ chunks .nakamoto = [⟨start, stop⟩]
  not_pizza_and_vintage : ¬ (chunks .pizza ≠ [] ∧ chunks .vintage ≠ [])

theorem kindChunks_agree {q : QueryRange} (hq : q.OneBlock) :
    KindsAgree q.start q.stop (kindChunks q) where
  perfect_sublist_uniform := (palinceptions_sublist hq).1
  uniform_sublist_palindrome := (palinceptions_sublist hq).2
  paliblock_eq_palindrome := paliblock_eq_palindrome hq
  not_alpha_and_omega n hn := by
    obtain ⟨-, -, s, -, hs⟩ := (someHolds_kindChunks_and hq).mp hn
    exact not_qualifies_alpha_and_omega s hs
  alpha_and_palindrome_iff n := by
    have hlt := hq.start_lt_stop
    have hnonneg := hq.nonneg
    have hsupply := hq.stop_le_supply
    simp only [someHolds_kindChunks_and hq, qualifies_alpha_and_palindrome_iff]
    constructor
    · rintro ⟨hlo, -, s, rfl, hs⟩
      omega
    · rintro ⟨rfl, hstart⟩
      obtain ⟨s, hs⟩ := Sat.exists_index_eq (n := 0) (Int.le_refl 0) (by omega)
      exact ⟨by omega, by omega, s, hs, by omega⟩
  firstTransaction_of_block9_450 _ := someHolds_of_qualifies hq fun _ =>
    firstTransaction_of_block9_450
  block9_of_firstTransaction _ := someHolds_of_qualifies hq fun _ => block9_of_firstTransaction
  whole_of_block9 := whole_of_block9
  not_pizza_and_vintage := by
    rintro ⟨hpizza, hvintage⟩
    have hlate := vintageHeight_lt_of_pizza hpizza
    rw [vintage_chunks, decide_eq_false (Int.not_le.mpr hlate)] at hvintage
    exact hvintage rfl

/-- Among entries with a chunk each, none is found for a kind exactly if none is of the kind. -/
theorem chunksOf_eq_nil_iff {entries : List Entry} (h : ∀ e ∈ entries, e.chunks ≠ [])
    (kind : RarityKind) : chunksOf kind entries = [] ↔ ∀ e ∈ entries, e.kind ≠ kind := by
  unfold chunksOf
  cases hfind : entries.find? (fun e => decide (e.kind = kind)) with
  | none => exact iff_of_true rfl (by simpa using hfind)
  | some e =>
    have hmem := List.mem_of_find?_eq_some hfind
    have hkind : e.kind = kind := by simpa using List.find?_some hfind
    exact iff_of_false (h e hmem) fun hnone => hnone e hmem hkind

theorem listed_nodup (q : QueryRange) :
    (((RarityKind.all.map fun k => ⟨k, kindChunks q k⟩).filter Entry.IsListed).map
      (·.kind)).Nodup := by
  have hall : RarityKind.all.Nodup := by decide
  refine (List.filter_sublist.map _).nodup ?_
  rwa [List.map_map]

/-- The chunks of a kind among the entries of a report are those that the kind has on its own. -/
theorem chunksOf_listed (q : QueryRange) (kind : RarityKind) :
    chunksOf kind ((RarityKind.all.map fun k => ⟨k, kindChunks q k⟩).filter Entry.IsListed) =
      kindChunks q kind := by
  by_cases hnil : kindChunks q kind = []
  · rw [hnil, chunksOf_eq_nil_iff fun e he => (mem_listed_iff.mp he).2]
    rintro e he rfl
    obtain ⟨hchunks, hne⟩ := mem_listed_iff.mp he
    exact hne (hchunks.trans hnil)
  · have hlisted := mem_listed_iff (e := ⟨kind, kindChunks q kind⟩).mpr ⟨rfl, hnil⟩
    exact chunksOf_of_mem (listed_nodup q) hlisted

/-- **The kinds of a report agree.** Every range of one block has a report. An entry of it has the
chunks of its kind, and a kind has none exactly if it has no entry. Perfect palinceptions are listed
among the uniform ones and these among the palindromes, and the palindromes of the block, if there
are any, are all palindromes. No sat is both an alpha and an omega, and only the first one of all is
both an alpha and a palindrome. The first coins of block 9 are among its first payments and these
among its sats, and a range of block 9 is vintage and one of the first miner. No report lists both
pizza and vintage sats. -/
theorem report_kinds_agree {start stop : Int} {q : QueryRange}
    (h : QueryRange.of start stop = .ok q) :
    ∃ entries, report start stop = .ok entries ∧
      (∀ e ∈ entries, chunksOf e.kind entries = e.chunks) ∧
      (∀ kind, chunksOf kind entries = [] ↔ ∀ e ∈ entries, e.kind ≠ kind) ∧
      KindsAgree start stop fun kind => chunksOf kind entries := by
  obtain ⟨rfl, rfl, hq⟩ := QueryRange.of_eq_ok_iff.mp h
  refine ⟨_, report_of_accepted h, ?_⟩
  refine ⟨fun e he => ?_, chunksOf_eq_nil_iff fun e he => (mem_listed_iff.mp he).2, ?_⟩
  · rw [chunksOf_listed]
    exact (mem_listed_iff.mp he).1.symm
  · simp only [chunksOf_listed]
    exact kindChunks_agree hq

/-- In the report of the first two sats, the first one is both an alpha and a palindrome. -/
theorem report_kinds_agree_at_first_sat :
    QueryRange.of 0 2 = .ok ⟨0, 2, 0⟩ ∧ ∃ entries, report 0 2 = .ok entries ∧
      (KindsAgree 0 2 fun kind => chunksOf kind entries) ∧
      Chunk.SomeHolds (chunksOf .alpha entries) 0 ∧
      Chunk.SomeHolds (chunksOf .palindrome entries) 0 := by
  have h : QueryRange.of 0 2 = .ok ⟨0, 2, 0⟩ := rfl
  obtain ⟨entries, hreport, -, -, hagree⟩ := report_kinds_agree h
  exact ⟨h, entries, hreport, hagree, (hagree.alpha_and_palindrome_iff 0).mpr ⟨rfl, rfl⟩⟩

end RareSats
