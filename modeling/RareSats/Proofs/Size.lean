/-
# How long a report is

No block issues more sats than the first one does, so a range of one block has at most
as many sats (`QueryRange.OneBlock.length_le`), and a walk over it in steps of a whole coin
takes at most fifty steps (`length_alphas_le`, `length_omegas_le`).

A palindrome of at least `2 * k` digits is known by what stands in front of its last `k`
digits (`eq_of_div_pow_eq`). The sats behind block 0 have ten digits or more, so among them
there is at most one palindrome for each value in front of the last five digits, of which a
block has few (`length_palindromesBetween_le`). Block 0 has numbers of one to ten digits. Up
to nine digits all of them are there, and of the palindromes of ten digits those of the
halves below its end (`length_palindromes_of_firstBlock`).

Key theorems: `eq_of_div_pow_eq`, `length_palindromesBetween_le`,
`length_palindromes_below_pow`, `length_palindromes_of_firstBlock`,
`QueryRange.OneBlock.length_le`, `report_is_short`.
-/
import RareSats.Proofs.Consistency
import RareSats.Proofs.PalindromeCount

namespace RareSats

/-! ### Whole coins -/

section

variable {start stop unit : Int} {found : List Int} {count : Nat}

/-- A range of at most as many whole coins has at most as many first sats of them. -/
theorem length_alphas_le (hunit : 0 < unit) (hsize : stop - start ≤ count * unit)
    (h : alphas start stop unit = .ok found) : found.length ≤ count := by
  rw [alphas_eq start stop hunit] at h
  have hfirst := (neg_fdiv_le_iff start hunit).mp (Int.le_refl _)
  cases h
  rw [List.length_map, List.length_range, ← Nat.not_lt, lt_stepsBefore hunit]
  omega

/-- A range of at most as many whole coins has at most as many last sats of them. -/
theorem length_omegas_le (hunit : 0 < unit) (hsize : stop - start ≤ count * unit)
    (h : omegas start stop unit = .ok found) : found.length ≤ count := by
  rw [omegas_eq start stop hunit] at h
  have hlast := (le_fdiv_iff stop hunit).mp (Int.le_refl _)
  cases h
  rw [List.length_map, List.length_range, ← Nat.not_lt, lt_stepsBefore hunit]
  omega

end

/-! ### Palindromes that are known by their front -/

/-- Palindromes of at least `2 * k` digits that agree in front of their last `k` digits are one. -/
theorem eq_of_div_pow_eq {m n k : Nat} (hm : 2 * k ≤ (digits m).length)
    (hn : 2 * k ≤ (digits n).length) (hpal : ReadsBothWays (digits m))
    (hpal' : ReadsBothWays (digits n)) (h : m / 10 ^ k = n / 10 ^ k) : m = n := by
  have hpos := length_digits_pos m
  have hpos' := length_digits_pos n
  obtain ⟨low, hdigits, hlow⟩ := digits_div_pow m k (by omega)
  obtain ⟨low', hdigits', hlow'⟩ := digits_div_pow n k (by omega)
  -- the same front and as many digits behind it: both numbers are of one length
  have hlength : (digits n).length = (digits m).length := by
    rw [hdigits, hdigits', h, List.length_append, List.length_append, hlow, hlow']
  have hhalf : m / 10 ^ ((digits m).length / 2) = n / 10 ^ ((digits m).length / 2) := by
    have hsplit : 10 ^ ((digits m).length / 2) = 10 ^ k * 10 ^ ((digits m).length / 2 - k) :=
      ten_pow_eq_mul (by omega)
    rw [hsplit, ← Nat.div_div_eq_div_mul, ← Nat.div_div_eq_div_mul, h]
  rw [← palindromeOfHalf_div_pow rfl hpal, ← palindromeOfHalf_div_pow hlength hpal', hhalf]

/-- From a number of `2 * k` digits on, there is at most one palindrome for each front. -/
theorem length_palindromesBetween_le {lo hi k : Nat} (hlo : 2 * k ≤ (digits lo).length) :
    (palindromesBetween lo hi).length ≤ hi / 10 ^ k + 1 - lo / 10 ^ k := by
  have hlong : ∀ n ∈ palindromesBetween lo hi, 2 * k ≤ (digits n).length := fun n hn =>
    Nat.le_trans hlo (length_digits_mono (mem_palindromesBetween.mp hn).1)
  have hfronts : ((palindromesBetween lo hi).map (· / 10 ^ k)).Nodup := by
    refine List.Nodup.map_on (fun m hm n hn hmn => ?_) (palindromesBetween_pairwise lo hi).nodup
    exact eq_of_div_pow_eq (hlong m hm) (hlong n hn) (mem_palindromesBetween.mp hm).2.2
      (mem_palindromesBetween.mp hn).2.2 hmn
  have hsubset : (palindromesBetween lo hi).map (· / 10 ^ k) ⊆
      List.range' (lo / 10 ^ k) (hi / 10 ^ k + 1 - lo / 10 ^ k) := by
    intro front hfront
    obtain ⟨n, hn, rfl⟩ := List.mem_map.mp hfront
    obtain ⟨hge, hle, -⟩ := mem_palindromesBetween.mp hn
    have hge' := Nat.div_le_div_right (c := 10 ^ k) hge
    have hle' := Nat.div_le_div_right (c := 10 ^ k) hle
    exact List.mem_range'_1.mpr ⟨hge', by omega⟩
  have hlength := (List.subperm_of_subset hfronts hsubset).length_le
  rwa [List.length_map, List.length_range'] at hlength

/-! ### Palindromes from zero on -/

theorem palindromesBetween_eq_append {lo mid hi : Nat} (hlo : lo < mid) (hhi : mid ≤ hi) :
    palindromesBetween lo hi = palindromesBetween lo (mid - 1) ++ palindromesBetween mid hi := by
  have hascending : (palindromesBetween lo (mid - 1) ++ palindromesBetween mid hi).Pairwise
      (· < ·) := by
    refine List.pairwise_append.mpr ⟨palindromesBetween_pairwise _ _,
      palindromesBetween_pairwise _ _, fun a ha b hb => ?_⟩
    have hbefore := (mem_palindromesBetween.mp ha).2.1
    have hfrom := (mem_palindromesBetween.mp hb).1
    omega
  refine (palindromesBetween_pairwise lo hi).eq_of_mem_iff hascending fun n => ?_
  rw [List.mem_append, mem_palindromesBetween, mem_palindromesBetween, mem_palindromesBetween]
  constructor
  · rintro ⟨hge, hle, hpal⟩
    rcases Nat.lt_or_ge n mid with hlt | hmid
    · exact Or.inl ⟨hge, by omega, hpal⟩
    · exact Or.inr ⟨hmid, hle, hpal⟩
  · rintro (⟨hge, hle, hpal⟩ | ⟨hge, hle, hpal⟩)
    · exact ⟨hge, by omega, hpal⟩
    · exact ⟨by omega, hle, hpal⟩

theorem length_palindromes_below_pow (length : Nat) :
    (palindromesBetween 0 (10 ^ length - 1)).length + 1 =
      10 ^ (length / 2) + 10 ^ ((length + 1) / 2) := by
  induction length with
  | zero => rfl
  | succ length ih =>
    have hpos : 0 < 10 ^ length := Nat.pow_pos (by decide)
    have hlt : 10 ^ length < 10 ^ (length + 1) := Nat.pow_lt_pow_right (by decide) (by omega)
    have hnew := length_palindromesBetween_of_length (Nat.zero_lt_succ length)
    rw [Nat.succ_eq_add_one, Nat.add_sub_cancel] at hnew
    have hhalf : (length + 1 + 1) / 2 = length / 2 + 1 := by omega
    rw [palindromesBetween_eq_append hpos (by omega), List.length_append, hnew, hhalf, Nat.pow_succ]
    omega

theorem length_palindromesBetween_mono {lo hi lo' hi' : Nat} (hlo : lo' ≤ lo) (hhi : hi ≤ hi') :
    (palindromesBetween lo hi).length ≤ (palindromesBetween lo' hi').length := by
  have hsubset : palindromesBetween lo hi ⊆ palindromesBetween lo' hi' := by
    intro n hn
    obtain ⟨hge, hle, hpal⟩ := mem_palindromesBetween.mp hn
    exact mem_palindromesBetween.mpr ⟨by omega, by omega, hpal⟩
  exact (List.subperm_of_subset (palindromesBetween_pairwise lo hi).nodup hsubset).length_le

/-- **The palindromes of block 0** are those of up to nine digits, and those of ten digits that
start with a half from 10000 to 49999. -/
theorem length_palindromes_of_firstBlock :
    (palindromesBetween 0 (initialSubsidy - 1)).length = 149999 := by
  have hshort := length_palindromes_below_pow 9
  have hhalves : ∀ half, 10000 ≤ half → half < 50000 →
      0 < half ∧ (digits half).length = 10 - 10 / 2 := by
    intro half hge hlt
    exact ⟨by omega, (length_digits_eq_iff (by omega) (by decide)).mpr ⟨hge, by omega⟩⟩
  have hlong := congrArg List.length
    (palindromesBetween_of_halves (by decide) (by decide) hhalves)
  rw [List.length_map, List.length_range'] at hlong
  have hleast : 10 ^ 9 = 10000 * 10 ^ (10 / 2) := by decide
  have hend : initialSubsidy - 1 = 50000 * 10 ^ (10 / 2) - 1 := by decide
  have hsplit : palindromesBetween 0 (initialSubsidy - 1) =
      palindromesBetween 0 (10 ^ 9 - 1) ++ palindromesBetween (10 ^ 9) (initialSubsidy - 1) :=
    palindromesBetween_eq_append (by decide) (by decide)
  rw [← hleast, ← hend] at hlong
  have hcount := congrArg List.length hsplit
  rw [List.length_append, hlong] at hcount
  omega

/-! ### Ranges of one block -/

theorem blockSubsidy_le (e : Nat) : blockSubsidy e ≤ initialSubsidy := by
  unfold blockSubsidy
  split
  · exact Nat.zero_le _
  · rw [Nat.shiftRight_eq_div_pow]
    exact Nat.div_le_self _ _

namespace QueryRange.OneBlock

variable {q : QueryRange} (hq : q.OneBlock)

include hq

theorem exists_block : ∃ h : Nat, q.height = h ∧ (blockStart h : Int) ≤ q.start ∧
    q.stop ≤ blockStart (h + 1) := by
  have hlt := hq.start_lt_stop
  obtain ⟨first, hfirst, hheight⟩ := hq.exists_sat (Int.le_refl _) hlt
  obtain ⟨last, hlast, hheight'⟩ := hq.exists_sat (n := q.stop - 1) (by omega) (by omega)
  have hsame : last.height = first.height := by omega
  have hbefore := first.blockStart_height_le
  have hbehind := last.index_lt_blockStart
  rw [hsame] at hbehind
  exact ⟨first.height, hheight, by omega, by omega⟩

/-- **A range has at most as many sats as the first block.** -/
theorem length_le : q.stop - q.start ≤ initialSubsidy := by
  obtain ⟨h, -, hstart, hstop⟩ := hq.exists_block
  have hsize := blockSubsidy_le (h / halvingInterval)
  rw [blockStart_succ] at hstop
  omega

theorem stop_le_of_firstBlock (hheight : q.height = 0) : q.stop ≤ initialSubsidy := by
  obtain ⟨h, hh, -, hstop⟩ := hq.exists_block
  obtain rfl : h = 0 := by omega
  exact hstop

theorem initialSubsidy_le_start (hheight : q.height ≠ 0) : (initialSubsidy : Int) ≤ q.start := by
  obtain ⟨h, hh, hstart, -⟩ := hq.exists_block
  have hone : blockStart 1 = initialSubsidy := rfl
  have hmono := blockStart_mono (show 1 ≤ h by omega)
  omega

/-! ### The chunks of a range -/

theorem length_alpha_chunks_le : (kindChunks q .alpha).length ≤ 50 := by
  obtain ⟨found, hfound⟩ := alphas_ok q.start q.stop (show 0 < (coinValue : Int) by decide)
  have hentries : evaluate .alpha q = .ok [⟨.alpha, Chunk.singles found⟩] := by
    rw [evaluate, hfound]
    rfl
  have hchunks : kindChunks q .alpha = Chunk.singles found := kindChunks_of_evaluate .alpha hentries
  rw [hchunks, Chunk.singles, List.length_map]
  exact length_alphas_le (by decide) hq.length_le hfound

theorem length_omega_chunks_le : (kindChunks q .omega).length ≤ 50 := by
  obtain ⟨found, hfound⟩ := omegas_ok q.start q.stop (show 0 < (coinValue : Int) by decide)
  have hentries : evaluate .omega q = .ok [⟨.omega, Chunk.singles found⟩] := by
    rw [evaluate, hfound]
    rfl
  have hchunks : kindChunks q .omega = Chunk.singles found := kindChunks_of_evaluate .omega hentries
  rw [hchunks, Chunk.singles, List.length_map]
  exact length_omegas_le (by decide) hq.length_le hfound

theorem exists_palindromesBetween : ∃ lo stop : Nat, q.start = lo ∧ q.stop = stop ∧ lo < stop ∧
    (kindChunks q .palindrome).length = (palindromesBetween lo (stop - 1)).length := by
  have hnonneg := hq.nonneg
  have hlt := hq.start_lt_stop
  obtain ⟨lo, hlo⟩ := Int.eq_ofNat_of_zero_le hnonneg
  obtain ⟨stop, hstop⟩ := Int.eq_ofNat_of_zero_le (show 0 ≤ q.stop by omega)
  have hbounds : lo < stop := by omega
  have hwrites := hq.writes_last
  rw [hstop] at hwrites
  have hfound := palindromes_below hbounds hwrites
  rw [← hlo, ← hstop] at hfound
  have hchunks := kindChunks_of_evaluate .palindrome
    (evaluatePalindromes_of_found hq.writes_height hfound)
  refine ⟨lo, stop, hlo, hstop, hbounds, ?_⟩
  rw [hchunks]
  simp [chunksOf, Chunk.singles]

theorem length_palindrome_chunks_le : (kindChunks q .palindrome).length ≤ 149999 ∧
    (q.height ≠ 0 → (kindChunks q .palindrome).length ≤ 50002) := by
  obtain ⟨lo, stop, hlo, hstop, hlt, hlength⟩ := hq.exists_palindromesBetween
  have hsubsidy : initialSubsidy = 5000000000 := by decide
  rw [hlength]
  by_cases hheight : q.height = 0
  · have hend := hq.stop_le_of_firstBlock hheight
    rw [← length_palindromes_of_firstBlock]
    refine ⟨length_palindromesBetween_mono (Nat.zero_le _) (by omega), fun h => ?_⟩
    exact absurd hheight h
  · have hstart := hq.initialSubsidy_le_start hheight
    have hsize := hq.length_le
    have hlong : (digits initialSubsidy).length ≤ (digits lo).length :=
      length_digits_mono (by omega)
    have hten : (digits initialSubsidy).length = 2 * 5 := by decide
    rw [hten] at hlong
    have hfronts : (palindromesBetween lo (stop - 1)).length ≤
        (stop - 1) / 10 ^ 5 + 1 - lo / 10 ^ 5 := length_palindromesBetween_le hlong
    omega

/-- The refinements of the palindromes have no more chunks than these. -/
theorem length_refined_chunks_le :
    (kindChunks q .perfectPalinception).length ≤ (kindChunks q .palindrome).length ∧
    (kindChunks q .uniformPalinception).length ≤ (kindChunks q .palindrome).length ∧
    (kindChunks q .paliblockPalindrome).length ≤ (kindChunks q .palindrome).length := by
  obtain ⟨hperfect, huniform⟩ := palinceptions_sublist hq
  refine ⟨(hperfect.trans huniform).length_le, huniform.length_le, ?_⟩
  by_cases hnone : kindChunks q .paliblockPalindrome = []
  · rw [hnone]
    exact Nat.zero_le _
  · rw [paliblock_eq_palindrome hq hnone]

end QueryRange.OneBlock

/-! ### The report -/

/-- The palindromes and the kinds that are decided along with them. -/
def palindromeKinds : List RarityKind :=
  [.palindrome, .perfectPalinception, .uniformPalinception, .paliblockPalindrome]

theorem length_palindromeKinds_chunks_le {q : QueryRange} (hq : q.OneBlock) {kind : RarityKind}
    (hkind : kind ∈ palindromeKinds) :
    (kindChunks q kind).length ≤ (kindChunks q .palindrome).length := by
  obtain ⟨hperfect, huniform, hpaliblock⟩ := hq.length_refined_chunks_le
  simp only [palindromeKinds, List.mem_cons, List.not_mem_nil, or_false] at hkind
  rcases hkind with rfl | rfl | rfl | rfl
  · exact Nat.le_refl _
  · exact hperfect
  · exact huniform
  · exact hpaliblock

/-- **A report is short.** Every range of one block has a report, wherever in the supply it lies.
The alphas and the omegas have at most fifty chunks each. The palindromes, and so the kinds that are
decided along with them, have at most 149999, and at most 50002 if the range is not one of
block 0. -/
theorem report_is_short {start stop : Int} {q : QueryRange} (h : QueryRange.of start stop = .ok q) :
    ∃ entries, report start stop = .ok entries ∧ ∀ e ∈ entries,
      (e.kind = .alpha ∨ e.kind = .omega → e.chunks.length ≤ 50) ∧
      (e.kind ∈ palindromeKinds → e.chunks.length ≤ 149999 ∧
        (q.height ≠ 0 → e.chunks.length ≤ 50002)) := by
  obtain ⟨-, -, hq⟩ := QueryRange.of_eq_ok_iff.mp h
  refine ⟨_, report_of_accepted h, fun e he => ?_⟩
  rw [(mem_listed_iff.mp he).1]
  constructor
  · rintro (hkind | hkind)
    · rw [hkind]
      exact hq.length_alpha_chunks_le
    · rw [hkind]
      exact hq.length_omega_chunks_le
  · intro hkind
    have hle := length_palindromeKinds_chunks_le hq hkind
    obtain ⟨hall, hlater⟩ := hq.length_palindrome_chunks_le
    exact ⟨Nat.le_trans hle hall, fun hheight => Nat.le_trans hle (hlater hheight)⟩

/-- The report of the whole of block 1. -/
theorem report_is_short_in_block1 :
    QueryRange.of 5000000000 10000000000 = .ok ⟨5000000000, 10000000000, 1⟩ ∧
    ∃ entries, report 5000000000 10000000000 = .ok entries ∧ ∀ e ∈ entries,
      (e.kind = .alpha ∨ e.kind = .omega → e.chunks.length ≤ 50) ∧
      (e.kind ∈ palindromeKinds → e.chunks.length ≤ 50002) := by
  have h : QueryRange.of 5000000000 10000000000 = .ok ⟨5000000000, 10000000000, 1⟩ := rfl
  obtain ⟨entries, hentries, hshort⟩ := report_is_short h
  refine ⟨h, entries, hentries, fun e he => ⟨(hshort e he).1, fun hkind => ?_⟩⟩
  exact ((hshort e he).2 hkind).2 (by decide)

end RareSats
