/-
# Every palindrome is found

A palindrome is its first half with the same digits in reverse behind it, so it is
the palindrome of the number in front of its last `length / 2` digits
(`palindromeOfHalf_div_pow`); and the palindrome of a half reads both ways and has
the half in front (`digits_palindromeOfHalf`). The halves that are walked are those
of all numbers of one length between the bounds. Greater halves have greater
palindromes, so only those of the first and the last half need be compared with the
bounds (`between_of_inner`), and the walk finds what comparing all of them would
(`palindromesWithin_eq_filter`). All lengths between those of the bounds are walked, and
numbers of more digits are greater, so the search gives every palindrome between its
bounds and nothing else, in ascending order (`palindromes_exact`).

Key theorems: `palindromesWithin_eq_filter`, `mem_palindromesBetween`,
`mem_palindromes`, `palindromes_pairwise`, `palindromes_exact`.
-/
import Mathlib.Data.List.Sort
import RareSats.Palindrome
import RareSats.Proofs.DigitLimit

namespace RareSats

/-! ### Halves of lists -/

/-- A list with its reverse behind it reads both ways, with its last member once or twice. -/
theorem readsBothWays_append_reverse {α : Type} (l : List α) {m : Nat} (hm : m < 2) :
    ReadsBothWays (l ++ l.reverse.drop m) := by
  unfold ReadsBothWays
  rcases Nat.lt_succ_iff_lt_or_eq.mp hm with hzero | rfl
  · obtain rfl : m = 0 := by omega
    simp
  · cases hl : l.reverse with
    | nil => rw [List.reverse_eq_nil_iff.mp hl]; rfl
    | cons x rest =>
      have hback : l = rest.reverse ++ [x] := by
        rw [← List.reverse_reverse l, hl, List.reverse_cons]
      simp [hback]

/-- The second half of a list that reads both ways is the first one reversed, without the middle. -/
theorem ReadsBothWays.eq_reverse_drop {α : Type} {a b : List α} (h : ReadsBothWays (a ++ b))
    (hlen : b.length ≤ a.length) : b = a.reverse.drop (a.length - b.length) := by
  have hrev : b.reverse ++ a.reverse = a ++ b := by rw [← List.reverse_append]; exact h
  have hdrop := congrArg (List.drop a.length) hrev
  rw [List.drop_left, List.drop_append, List.drop_eq_nil_of_le (by simpa using hlen),
    List.length_reverse, List.nil_append] at hdrop
  exact hdrop.symm

/-! ### Palindromes and their halves -/

/-- The palindrome of a half has the digits of the half in front. -/
theorem digits_palindromeOfHalf {length half : Nat}
    (h : 0 < half ∨ (digits half).reverse.drop (length % 2) = []) :
    digits (palindromeOfHalf length half) =
      digits half ++ (digits half).reverse.drop (length % 2) := by
  unfold palindromeOfHalf
  rcases h with hpos | hnil
  · refine digits_ofDigitChars (fun c hc => ?_) hpos
    exact isDigit_of_mem_digits (List.mem_reverse.mp (List.mem_of_mem_drop hc))
  · rw [hnil, List.append_nil, Nat.ofDigitChars_nil]

/-- A palindrome is the palindrome of what stands in front of its last `length / 2` digits. -/
theorem palindromeOfHalf_div_pow {n length : Nat} (hlen : (digits n).length = length)
    (h : ReadsBothWays (digits n)) :
    palindromeOfHalf length (n / 10 ^ (length / 2)) = n := by
  have hpos := length_digits_pos n
  obtain ⟨low, hsplit, hlow⟩ := digits_div_pow n (length / 2) (by omega)
  have htotal := congrArg List.length hsplit
  rw [List.length_append, hlen, hlow] at htotal
  rw [hsplit] at h
  have hback := h.eq_reverse_drop (by omega)
  have hodd : (digits (n / 10 ^ (length / 2))).length - low.length = length % 2 := by omega
  rw [hodd] at hback
  have hvalue : Nat.ofDigitChars 10 low (ofDigits (digits (n / 10 ^ (length / 2)))) = n := by
    rw [ofDigits, ← Nat.ofDigitChars_append, ← hsplit]
    exact ofDigits_digits n
  rw [ofDigits_digits, hback] at hvalue
  exact hvalue

theorem half_bounds {length half : Nat} (hlength : 0 < length)
    (hlo : leastOfLength length / 10 ^ (length / 2) ≤ half)
    (hhi : half ≤ (10 ^ length - 1) / 10 ^ (length / 2)) :
    (digits half).length = length - length / 2 ∧ (0 < half ∨ length = 1) := by
  have hsplit : 10 ^ length = 10 ^ (length - length / 2) * 10 ^ (length / 2) :=
    ten_pow_eq_mul (by omega)
  have hlt : half < 10 ^ (length - length / 2) := by
    refine Nat.lt_of_le_of_lt hhi ?_
    rw [Nat.div_lt_iff_lt_mul (Nat.pow_pos (by decide)), ← hsplit]
    exact Nat.sub_lt (Nat.pow_pos (by decide)) (by decide)
  have hle := (length_digits_le_iff (by omega)).mpr hlt
  by_cases hone : length = 1
  · subst hone
    exact ⟨Nat.le_antisymm hle (length_digits_pos half), Or.inr rfl⟩
  · have hleast : 10 ^ (length - 1 - length / 2) ≤ half := by
      rw [leastOfLength, if_neg hone, Nat.pow_eq, Nat.pow_div (by omega) (by decide)] at hlo
      exact hlo
    have hge : length - 1 - length / 2 < (digits half).length := by
      rcases Nat.eq_zero_or_pos (length - 1 - length / 2) with hzero | hpos
      · rw [hzero]; exact length_digits_pos half
      · rw [← Nat.not_le, length_digits_le_iff hpos]
        omega
    exact ⟨by omega, Or.inl (Nat.lt_of_lt_of_le (Nat.pow_pos (by decide)) hleast)⟩

/-- The only half that may be zero is that of a palindrome of one digit, with nothing behind it. -/
theorem digits_palindromeOfHalf_of_walked {length half : Nat}
    (hhalf : (digits half).length = length - length / 2) (hpos : 0 < half ∨ length = 1) :
    digits (palindromeOfHalf length half) =
      digits half ++ (digits half).reverse.drop (length % 2) := by
  refine digits_palindromeOfHalf (hpos.imp_right fun hone => ?_)
  subst hone
  exact List.drop_eq_nil_of_le (by simp [hhalf])

theorem length_palindromeOfHalf {length half : Nat}
    (hhalf : (digits half).length = length - length / 2) (hpos : 0 < half ∨ length = 1) :
    (digits (palindromeOfHalf length half)).length = length := by
  rw [digits_palindromeOfHalf_of_walked hhalf hpos, List.length_append, List.length_drop,
    List.length_reverse, hhalf]
  omega

theorem leastOfLength_le {n length : Nat} (hlen : (digits n).length = length) :
    leastOfLength length ≤ n := by
  unfold leastOfLength
  split
  · exact Nat.zero_le n
  · rw [Nat.pow_eq, ← Nat.not_lt, ← length_digits_le_iff (by have := length_digits_pos n; omega)]
    have := length_digits_pos n
    omega

/-- A palindrome has its half in front of its last `length / 2` digits. -/
theorem div_pow_palindromeOfHalf {length half : Nat} (hlength : 0 < length)
    (hhalf : (digits half).length = length - length / 2) (hpos : 0 < half ∨ length = 1) :
    palindromeOfHalf length half / 10 ^ (length / 2) = half := by
  have hlen := length_palindromeOfHalf hhalf hpos
  obtain ⟨low, hsplit, hlow⟩ :=
    digits_div_pow (palindromeOfHalf length half) (length / 2) (by omega)
  rw [digits_palindromeOfHalf_of_walked hhalf hpos] at hsplit
  -- what stands behind the half is as long as what the division drops
  have htail : ((digits half).reverse.drop (length % 2)).length = low.length := by
    rw [List.length_drop, List.length_reverse, hhalf, hlow]
    omega
  exact (digits_injective (List.append_inj' hsplit htail).1).symm

theorem palindromeOfHalf_lt {length half half' : Nat} (hlength : 0 < length)
    (hhalf : (digits half).length = length - length / 2) (hpos : 0 < half ∨ length = 1)
    (hhalf' : (digits half').length = length - length / 2) (hpos' : 0 < half' ∨ length = 1)
    (hlt : half < half') : palindromeOfHalf length half < palindromeOfHalf length half' := by
  apply Nat.lt_of_div_lt_div (c := 10 ^ (length / 2))
  rw [div_pow_palindromeOfHalf hlength hhalf hpos, div_pow_palindromeOfHalf hlength hhalf' hpos']
  exact hlt

theorem readsBothWays_palindromeOfHalf {length half : Nat}
    (hhalf : (digits half).length = length - length / 2) (hpos : 0 < half ∨ length = 1) :
    ReadsBothWays (digits (palindromeOfHalf length half)) := by
  rw [digits_palindromeOfHalf_of_walked hhalf hpos]
  exact readsBothWays_append_reverse _ (Nat.mod_lt _ (by decide))

/-! ### The walk over the halves of one length -/

theorem range'_eq_ends {first last : Nat} (h : first < last) :
    List.range' first (last + 1 - first) =
      [first] ++ List.range' (first + 1) (last - (first + 1)) ++ [last] := by
  obtain ⟨inner, rfl⟩ : ∃ inner, last = first + 1 + inner := ⟨last - (first + 1), by omega⟩
  have hwalk : first + 1 + inner + 1 - first = inner + 1 + 1 := by omega
  have hinner : first + 1 + inner - (first + 1) = inner := by omega
  rw [hwalk, hinner, List.range'_succ, List.range'_1_concat]
  rfl

section OneLength

variable {lo hi length : Nat} (hlength : 0 < length) (hlo : leastOfLength length ≤ lo)
  (hhi : hi ≤ 10 ^ length - 1)

include hlength hlo hhi

theorem walked_half {half : Nat} (hfirst : lo / 10 ^ (length / 2) ≤ half)
    (hlast : half ≤ hi / 10 ^ (length / 2)) :
    (digits half).length = length - length / 2 ∧ (0 < half ∨ length = 1) := by
  refine half_bounds hlength ?_ ?_
  · exact Nat.le_trans (Nat.div_le_div_right hlo) hfirst
  · exact Nat.le_trans hlast (Nat.div_le_div_right hhi)

/-- **The palindromes of inner halves lie between the bounds**, so they need not be compared. -/
theorem between_of_inner {half : Nat} (hfirst : lo / 10 ^ (length / 2) < half)
    (hlast : half < hi / 10 ^ (length / 2)) :
    lo ≤ palindromeOfHalf length half ∧ palindromeOfHalf length half ≤ hi := by
  obtain ⟨hhalf, hpos⟩ := walked_half hlength hlo hhi (Nat.le_of_lt hfirst) (Nat.le_of_lt hlast)
  have hfront := div_pow_palindromeOfHalf hlength hhalf hpos
  constructor
  · apply Nat.le_of_lt
    apply Nat.lt_of_div_lt_div
    rw [hfront]
    exact hfirst
  · apply Nat.le_of_lt
    apply Nat.lt_of_div_lt_div
    rw [hfront]
    exact hlast

/-- **Comparing at the ends is comparing everywhere.** The walk finds the palindromes of all halves
from the first to the last one that lie between the bounds. -/
theorem palindromesWithin_eq_filter : palindromesWithin lo hi length =
    ((List.range' (lo / 10 ^ (length / 2))
      (hi / 10 ^ (length / 2) + 1 - lo / 10 ^ (length / 2))).map (palindromeOfHalf length)).filter
        fun p => lo ≤ p ∧ p ≤ hi := by
  have hsingle : ∀ p, keepBetween lo hi p = [p].filter fun p => lo ≤ p ∧ p ≤ hi := by
    intro p
    simp [keepBetween, List.filter_singleton]
  have hbetween := fun half => @between_of_inner lo hi length hlength hlo hhi half
  unfold palindromesWithin
  simp only [Nat.pow_eq, hsingle]
  generalize hfirst : lo / 10 ^ (length / 2) = first at hbetween ⊢
  generalize hlast : hi / 10 ^ (length / 2) = last at hbetween ⊢
  rcases Nat.lt_trichotomy first last with hlt | heq | hgt
  · -- the palindromes of the inner halves are all kept
    have hall : ((List.range' (first + 1) (last - (first + 1))).map
        (palindromeOfHalf length)).filter (fun p => lo ≤ p ∧ p ≤ hi) =
        (List.range' (first + 1) (last - (first + 1))).map (palindromeOfHalf length) := by
      rw [List.filter_eq_self]
      intro p hp
      obtain ⟨half, hhalf, rfl⟩ := List.mem_map.mp hp
      rw [List.mem_range'_1] at hhalf
      exact decide_eq_true (hbetween half (by omega) (by omega))
    rw [range'_eq_ends hlt, List.map_append, List.map_append, List.filter_append,
      List.filter_append, hall, if_neg (Nat.ne_of_gt hlt)]
    rfl
  · -- there is one half
    subst heq
    simp
  · -- the bounds are inverted
    have hinverted : hi < lo := by
      apply Nat.lt_of_div_lt_div (c := 10 ^ (length / 2))
      rw [hfirst, hlast]
      exact hgt
    have hnone : ∀ p : Nat, ¬ (lo ≤ p ∧ p ≤ hi) := by
      intro p
      omega
    have hinner : last - (first + 1) = 0 := by omega
    have hwalk : last + 1 - first = 0 := by omega
    simp [hnone, hinner, hwalk]

theorem mem_palindromesWithin {n : Nat} : n ∈ palindromesWithin lo hi length ↔
    lo ≤ n ∧ n ≤ hi ∧ (digits n).length = length ∧ ReadsBothWays (digits n) := by
  rw [palindromesWithin_eq_filter hlength hlo hhi]
  simp only [List.mem_filter, List.mem_map, List.mem_range'_1, decide_eq_true_eq]
  constructor
  · rintro ⟨⟨half, ⟨hfirst, hlast⟩, rfl⟩, hbounds⟩
    obtain ⟨hhalf, hpos⟩ := walked_half hlength hlo hhi hfirst (by omega)
    exact ⟨hbounds.1, hbounds.2, length_palindromeOfHalf hhalf hpos,
      readsBothWays_palindromeOfHalf hhalf hpos⟩
  · rintro ⟨hge, hle, hlen, hpal⟩
    have hfirst : lo / 10 ^ (length / 2) ≤ n / 10 ^ (length / 2) := Nat.div_le_div_right hge
    have hlast : n / 10 ^ (length / 2) ≤ hi / 10 ^ (length / 2) := Nat.div_le_div_right hle
    exact ⟨⟨_, ⟨hfirst, by omega⟩, palindromeOfHalf_div_pow hlen hpal⟩, hge, hle⟩

theorem palindromesWithin_pairwise : (palindromesWithin lo hi length).Pairwise (· < ·) := by
  rw [palindromesWithin_eq_filter hlength hlo hhi]
  refine List.Pairwise.filter _ (List.pairwise_map.mpr ?_)
  refine (List.pairwise_lt_range' 1).imp_of_mem fun {a b} ha hb hlt => ?_
  rw [List.mem_range'_1] at ha hb
  obtain ⟨hlen, hpos⟩ := walked_half hlength hlo hhi ha.1 (by omega)
  obtain ⟨hlen', hpos'⟩ := walked_half hlength hlo hhi hb.1 (by omega)
  exact palindromeOfHalf_lt hlength hlen hpos hlen' hpos' hlt

end OneLength

/-! ### The search -/

theorem mem_palindromesOfLength {lo hi length n : Nat} (hlength : 0 < length) :
    n ∈ palindromesOfLength lo hi length ↔
      lo ≤ n ∧ n ≤ hi ∧ (digits n).length = length ∧ ReadsBothWays (digits n) := by
  have hlo : leastOfLength length ≤ max lo (leastOfLength length) := Nat.le_max_right _ _
  have hhi : min hi (10 ^ length - 1) ≤ 10 ^ length - 1 := Nat.min_le_right _ _
  rw [palindromesOfLength, Nat.pow_eq, mem_palindromesWithin hlength hlo hhi]
  constructor
  · rintro ⟨hge, hle, hlen, hpal⟩
    exact ⟨by omega, by omega, hlen, hpal⟩
  · rintro ⟨hge, hle, hlen, hpal⟩
    have hleast := leastOfLength_le hlen
    have hgreatest := (length_digits_le_iff hlength).mp (Nat.le_of_eq hlen)
    exact ⟨by omega, by omega, hlen, hpal⟩

theorem palindromesOfLength_pairwise (lo hi : Nat) {length : Nat} (hlength : 0 < length) :
    (palindromesOfLength lo hi length).Pairwise (· < ·) :=
  palindromesWithin_pairwise hlength (Nat.le_max_right _ _) (Nat.min_le_right _ _)

theorem mem_palindromesBetween {lo hi n : Nat} :
    n ∈ palindromesBetween lo hi ↔ lo ≤ n ∧ n ≤ hi ∧ ReadsBothWays (digits n) := by
  simp only [palindromesBetween, List.mem_flatMap, List.mem_range'_1]
  refine ⟨fun h => ?_, fun h => ?_⟩
  · obtain ⟨length, ⟨hshort, -⟩, hn⟩ := h
    have hpos := length_digits_pos lo
    obtain ⟨hlo, hhi, -, hpal⟩ := (mem_palindromesOfLength (by omega)).mp hn
    exact ⟨hlo, hhi, hpal⟩
  · obtain ⟨hlo, hhi, hpal⟩ := h
    have hshort := length_digits_mono hlo
    have hlong := length_digits_mono hhi
    exact ⟨(digits n).length, ⟨hshort, by omega⟩,
      (mem_palindromesOfLength (length_digits_pos n)).mpr ⟨hlo, hhi, rfl, hpal⟩⟩

/-- Numbers of more digits are found after those of fewer digits, and are greater. -/
theorem palindromesBetween_pairwise (lo hi : Nat) :
    (palindromesBetween lo hi).Pairwise (· < ·) := by
  have hpos := length_digits_pos lo
  rw [palindromesBetween, List.pairwise_flatMap]
  refine ⟨fun length hmem => palindromesOfLength_pairwise lo hi ?_, ?_⟩
  · have := (List.mem_range'_1.mp hmem).1
    omega
  · refine (List.pairwise_lt_range' 1).imp_of_mem fun {a b} ha hb hlt m hm n hn => ?_
    have ha := (List.mem_range'_1.mp ha).1
    have hb := (List.mem_range'_1.mp hb).1
    obtain ⟨-, -, hlen, -⟩ := (mem_palindromesOfLength (by omega)).mp hm
    obtain ⟨-, -, hlen', -⟩ := (mem_palindromesOfLength (by omega)).mp hn
    rw [← Nat.not_le]
    intro hle
    have hmono := length_digits_mono hle
    omega

section Search

variable {limit : DigitLimit} {lo hi : Int} {found : List Int} {e : Error}

theorem palindromesUnder_eq_ok_iff :
    palindromesUnder limit lo hi = .ok found ↔ ¬ (lo < 0 ∨ hi < lo) ∧ limit.writes hi = true ∧
      found = (palindromesBetween lo.toNat hi.toNat).map Int.ofNat := by
  unfold palindromesUnder
  by_cases hbounds : lo < 0 ∨ hi < lo
  · simp [hbounds]
  · by_cases hwrites : limit.writes hi = true
    · simp [hbounds, hwrites, eq_comm]
    · simp [hbounds, hwrites]

theorem palindromes_ok (hlo : 0 ≤ lo) (hle : lo ≤ hi) (hwrites : limit.writes hi = true) :
    ∃ found, palindromesUnder limit lo hi = .ok found :=
  ⟨_, palindromesUnder_eq_ok_iff.mpr ⟨by omega, hwrites, rfl⟩⟩

/-- **Exactly the palindromes between the bounds are found.** -/
theorem mem_palindromes {n : Int} (h : palindromesUnder limit lo hi = .ok found) :
    n ∈ found ↔ lo ≤ n ∧ n ≤ hi ∧ ReadsBothWays (decimal n) := by
  obtain ⟨hbounds, -, rfl⟩ := palindromesUnder_eq_ok_iff.mp h
  rw [List.mem_map]
  refine ⟨fun h => ?_, fun h => ?_⟩
  · obtain ⟨p, hp, rfl⟩ := h
    obtain ⟨hlo, hhi, hpal⟩ := mem_palindromesBetween.mp hp
    exact ⟨by simp only [Int.ofNat_eq_natCast]; omega, by simp only [Int.ofNat_eq_natCast]; omega,
      hpal⟩
  · obtain ⟨hlo, hhi, hpal⟩ := h
    obtain ⟨p, rfl⟩ : ∃ p : Nat, n = p := ⟨n.toNat, by omega⟩
    exact ⟨p, mem_palindromesBetween.mpr ⟨by omega, by omega, hpal⟩, rfl⟩

/-- **The palindromes between the bounds are found in ascending order.** -/
theorem palindromes_pairwise (h : palindromesUnder limit lo hi = .ok found) :
    found.Pairwise (· < ·) := by
  obtain ⟨-, -, rfl⟩ := palindromesUnder_eq_ok_iff.mp h
  exact List.pairwise_map.mpr ((palindromesBetween_pairwise _ _).imp Int.ofNat_lt.mpr)

theorem palindromes_eq_error_iff :
    palindromesUnder .unlimited lo hi = .error e ↔
      (lo < 0 ∨ hi < lo) ∧ e = .palindromeBounds lo hi := by
  unfold palindromesUnder
  rw [Error.naming_unlimited, DigitLimit.writes_unlimited]
  by_cases hbounds : lo < 0 ∨ hi < lo
  · simp [hbounds, eq_comm]
  · simp [hbounds]

theorem palindromesUnder_of_long (hlo : 0 ≤ lo) (hle : lo ≤ hi) (hlong : limit.writes hi = false) :
    palindromesUnder limit lo hi = .error .unwritableNumber := by
  rw [palindromesUnder, if_neg (by omega), hlong, if_neg Bool.false_ne_true]

end Search

/-- **The search is exact.** Without a limit on numbers that are written it fails exactly at bounds
that are negative or inverted, and else it gives the one list in strictly ascending order whose
members are the numbers from the lower to the upper bound whose decimal text reads the same in both
directions. Under a limit it gives the same list, if the upper bound is written, and else none. -/
theorem palindromes_exact (lo hi : Int) :
    (∀ e, palindromesUnder .unlimited lo hi = .error e ↔
      (lo < 0 ∨ hi < lo) ∧ e = .palindromeBounds lo hi) ∧
    (∀ found, palindromesUnder .unlimited lo hi = .ok found ↔
      ¬ (lo < 0 ∨ hi < lo) ∧ found.Pairwise (· < ·) ∧
        ∀ n, n ∈ found ↔ lo ≤ n ∧ n ≤ hi ∧ (decimal n).reverse = decimal n) ∧
    ∀ limit found, palindromesUnder limit lo hi = .ok found ↔
      limit.writes hi = true ∧ palindromesUnder .unlimited lo hi = .ok found := by
  refine ⟨fun e => palindromes_eq_error_iff, fun found => ⟨fun h => ?_, ?_⟩, fun limit found => ?_⟩
  · refine ⟨?_, palindromes_pairwise h, fun n => mem_palindromes h⟩
    exact (palindromesUnder_eq_ok_iff.mp h).1
  · rintro ⟨hbounds, hascending, hmem⟩
    rw [not_or, Int.not_lt, Int.not_lt] at hbounds
    obtain ⟨searched, hsearched⟩ :=
      palindromes_ok hbounds.1 hbounds.2 (DigitLimit.writes_unlimited hi)
    have hsame : ∀ n, n ∈ searched ↔ n ∈ found := by
      intro n
      rw [mem_palindromes hsearched, hmem]
      rfl
    rw [hsearched, (palindromes_pairwise hsearched).eq_of_mem_iff hascending hsame]
  · simp only [palindromesUnder_eq_ok_iff, DigitLimit.writes_unlimited, true_and]
    exact and_left_comm

end RareSats
