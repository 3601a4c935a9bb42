/-
# One palindrome for each half

The numbers of `length` digits that start with one half are those from
`half * 10 ^ (length / 2)` on and below `(half + 1) * 10 ^ (length / 2)`. There is one
palindrome among them, the half with its first `length / 2` digits in reverse behind it
(`palindromesBetween_of_half`). The halves from one to another give, in their order, the
palindromes from the least number of the first half to the greatest number of the last one
(`palindromesBetween_of_halves`). So there are as many palindromes of a length as there are
halves, which are the numbers of `length - length / 2` digits
(`length_palindromesBetween_of_length`). The search finds them as long as the numbers of
the length are written, and else it finds nothing (`palindromes_of_long_half`).

Key theorems: `palindromesBetween_of_halves`, `palindromesBetween_of_half`,
`length_palindromesBetween_of_length`, `palindromes_of_long_half`,
`one_palindrome_of_each_half`.
-/
import Mathlib.Algebra.Ring.Int.Defs
import RareSats.Proofs.Palindrome

namespace RareSats

/-! ### Numbers that start with a half -/

theorem digits_palindromeOfHalf_eq {length half : Nat} (hpos : 0 < half)
    (hhalf : (digits half).length = length - length / 2) :
    digits (palindromeOfHalf length half) =
      digits half ++ ((digits half).take (length / 2)).reverse := by
  have hmiddle : length - length / 2 - length / 2 = length % 2 := by omega
  rw [digits_palindromeOfHalf_of_walked hhalf (Or.inl hpos), List.reverse_take, hhalf, hmiddle]

theorem length_digits_of_half {n length : Nat} (hlength : 0 < length)
    (hpos : 0 < n / 10 ^ (length / 2))
    (hhalf : (digits (n / 10 ^ (length / 2))).length = length - length / 2) :
    (digits n).length = length := by
  have hten : 0 < 10 ^ (length / 2) := Nat.pow_pos (by decide)
  have hn : 0 < n := Nat.lt_of_lt_of_le hpos (Nat.div_le_self n _)
  obtain ⟨hge, hlt⟩ := (length_digits_eq_iff hpos (by omega)).mp hhalf
  refine (length_digits_eq_iff hn hlength).mpr ⟨?_, ?_⟩
  · have hsplit : 10 ^ (length - 1) = 10 ^ (length - length / 2 - 1) * 10 ^ (length / 2) :=
      ten_pow_eq_mul (by omega)
    rw [hsplit]
    exact (Nat.le_div_iff_mul_le hten).mp hge
  · have hsplit : 10 ^ length = 10 ^ (length - length / 2) * 10 ^ (length / 2) :=
      ten_pow_eq_mul (by omega)
    rw [hsplit]
    exact (Nat.div_lt_iff_lt_mul hten).mp hlt

/-! ### Palindromes of halves in a row -/

/-- **The palindromes that start with halves in a row** are the palindromes of these halves, one for
each of them and in their order. -/
theorem palindromesBetween_of_halves {length first last : Nat} (hlength : 0 < length)
    (hlt : first < last) (hhalves : ∀ half, first ≤ half → half < last →
      0 < half ∧ (digits half).length = length - length / 2) :
    palindromesBetween (first * 10 ^ (length / 2)) (last * 10 ^ (length / 2) - 1) =
      (List.range' first (last - first)).map (palindromeOfHalf length) := by
  have hten : 0 < 10 ^ (length / 2) := Nat.pow_pos (by decide)
  have hstop : 0 < last * 10 ^ (length / 2) := Nat.mul_pos (by omega) hten
  have hascending :
      ((List.range' first (last - first)).map (palindromeOfHalf length)).Pairwise (· < ·) := by
    refine List.pairwise_map.mpr ((List.pairwise_lt_range' 1).imp_of_mem fun {a b} ha hb hab => ?_)
    rw [List.mem_range'_1] at ha hb
    obtain ⟨hpos, hhalf⟩ := hhalves a ha.1 (by omega)
    obtain ⟨hpos', hhalf'⟩ := hhalves b hb.1 (by omega)
    exact palindromeOfHalf_lt hlength hhalf (Or.inl hpos) hhalf' (Or.inl hpos') hab
  -- both lists ascend, so it is enough that they have the same members
  refine (palindromesBetween_pairwise _ _).eq_of_mem_iff hascending fun n => ?_
  rw [mem_palindromesBetween, List.mem_map]
  constructor
  · rintro ⟨hlo, hhi, hn⟩
    have hge : first ≤ n / 10 ^ (length / 2) := (Nat.le_div_iff_mul_le hten).mpr hlo
    have hbelow : n / 10 ^ (length / 2) < last := (Nat.div_lt_iff_lt_mul hten).mpr (by omega)
    obtain ⟨hpos, hhalf⟩ := hhalves _ hge hbelow
    have hlen := length_digits_of_half hlength hpos hhalf
    have hmem := List.mem_range'_1.mpr ⟨hge, (by omega : _ < first + (last - first))⟩
    exact ⟨_, hmem, palindromeOfHalf_div_pow hlen hn⟩
  · rintro ⟨half, hmem, rfl⟩
    rw [List.mem_range'_1] at hmem
    have hbelow : half < last := by omega
    obtain ⟨hpos, hhalf⟩ := hhalves half hmem.1 hbelow
    have hfront := div_pow_palindromeOfHalf hlength hhalf (Or.inl hpos)
    have hlo : first * 10 ^ (length / 2) ≤ palindromeOfHalf length half := by
      rw [← Nat.le_div_iff_mul_le hten, hfront]
      exact hmem.1
    have hhi : palindromeOfHalf length half < last * 10 ^ (length / 2) := by
      rw [← Nat.div_lt_iff_lt_mul hten, hfront]
      exact hbelow
    exact ⟨hlo, by omega, readsBothWays_palindromeOfHalf hhalf (Or.inl hpos)⟩

theorem palindromesBetween_of_half {length half : Nat} (hlength : 0 < length) (hpos : 0 < half)
    (hhalf : (digits half).length = length - length / 2) :
    palindromesBetween (half * 10 ^ (length / 2)) ((half + 1) * 10 ^ (length / 2) - 1) =
      [palindromeOfHalf length half] := by
  have hlt : half < half + 1 := Nat.lt_succ_self half
  rw [palindromesBetween_of_halves hlength hlt, Nat.add_sub_cancel_left]
  · rfl
  · intro other hge hlt
    obtain rfl : other = half := by omega
    exact ⟨hpos, hhalf⟩

/-- There are as many palindromes of a length as numbers of half of the digits. -/
theorem length_palindromesBetween_of_length {length : Nat} (hlength : 0 < length) :
    (palindromesBetween (10 ^ (length - 1)) (10 ^ length - 1)).length =
      9 * 10 ^ ((length - 1) / 2) := by
  -- the halves are the numbers of one digit more than `front`
  obtain ⟨front, hfront⟩ : ∃ front, length - length / 2 = front + 1 :=
    ⟨length - length / 2 - 1, by omega⟩
  have hleast : 10 ^ (length - 1) = 10 ^ front * 10 ^ (length / 2) :=
    ten_pow_eq_mul (by omega)
  have hstop : 10 ^ length = 10 ^ (front + 1) * 10 ^ (length / 2) :=
    ten_pow_eq_mul (by omega)
  have hlt : 10 ^ front < 10 ^ (front + 1) := Nat.pow_lt_pow_right (by decide) (Nat.lt_succ_self _)
  rw [hleast, hstop, palindromesBetween_of_halves hlength hlt]
  · have hcount : (length - 1) / 2 = front := by omega
    rw [List.length_map, List.length_range', hcount, Nat.pow_succ]
    omega
  · intro half hge hbelow
    have hpos : 0 < half := Nat.lt_of_lt_of_le (Nat.pow_pos (by decide)) hge
    rw [hfront]
    exact ⟨hpos, (length_digits_eq_iff hpos (Nat.succ_pos front)).mpr ⟨hge, hbelow⟩⟩

/-! ### The search over all numbers that start with a half -/

theorem palindromes_below {lo stop : Nat} (hlt : lo < stop)
    (hwrites : DigitLimit.standard.writes (stop - 1) = true) :
    palindromes lo (stop - 1) = .ok ((palindromesBetween lo (stop - 1)).map Int.ofNat) := by
  have hlast : ((stop : Int) - 1).toNat = stop - 1 := by omega
  refine palindromesUnder_eq_ok_iff.mpr ⟨by omega, hwrites, ?_⟩
  rw [Int.toNat_natCast, hlast]

theorem writes_of_length {length stop : Nat} (hlimit : length ≤ Error.digitLimit)
    (hpos : 0 < stop) (hstop : stop ≤ 10 ^ length) :
    DigitLimit.standard.writes ((stop : Int) - 1) = true := by
  have hpow : 10 ^ length ≤ 10 ^ Error.digitLimit := Nat.pow_le_pow_right (by decide) hlimit
  rw [DigitLimit.writes_standard_iff]
  omega

theorem bounds_of_half {length half : Nat} (hlength : 1 ≤ length) (hpos : 0 < half)
    (hhalf : (digits half).length = length - length / 2) :
    10 ^ (length - 1) ≤ half * 10 ^ (length / 2) ∧
      (half + 1) * 10 ^ (length / 2) ≤ 10 ^ length := by
  have hleast : 10 ^ (length - 1) = 10 ^ (length - length / 2 - 1) * 10 ^ (length / 2) :=
    ten_pow_eq_mul (by omega)
  have hstop : 10 ^ length = 10 ^ (length - length / 2) * 10 ^ (length / 2) :=
    ten_pow_eq_mul (by omega)
  obtain ⟨hge, hlt⟩ := (length_digits_eq_iff hpos (by omega)).mp hhalf
  rw [hleast, hstop]
  exact ⟨Nat.mul_le_mul_right _ hge, Nat.mul_le_mul_right _ hlt⟩

/-- No palindrome is found that is longer than numbers are written. -/
theorem palindromes_of_long_half {length half : Nat} (hlimit : Error.digitLimit < length)
    (hpos : 0 < half) (hhalf : (digits half).length = length - length / 2) :
    palindromes (half * 10 ^ (length / 2)) ((half + 1) * 10 ^ (length / 2) - 1) =
      .error .unwritableNumber := by
  have hlo : 10 ^ Error.digitLimit ≤ half * 10 ^ (length / 2) := by
    refine Nat.le_trans (Nat.pow_le_pow_right (by decide) ?_) (bounds_of_half ?_ hpos hhalf).1
    · exact Nat.le_sub_one_of_lt hlimit
    · exact Nat.one_le_of_lt hlimit
  have hlt : half * 10 ^ (length / 2) < (half + 1) * 10 ^ (length / 2) :=
    Nat.mul_lt_mul_of_pos_right (Nat.lt_succ_self half) (Nat.pow_pos (by decide))
  have hlong :
      DigitLimit.standard.writes (((half + 1) * 10 ^ (length / 2) : Nat) - 1 : Int) = false := by
    rw [← Bool.not_eq_true, DigitLimit.writes_standard_iff]
    omega
  have hnonneg : 0 ≤ ((half * 10 ^ (length / 2) : Nat) : Int) := Int.natCast_nonneg _
  have hnone := palindromesUnder_of_long hnonneg (by omega) hlong
  push_cast at hnone
  exact hnone

/-- **A palindrome is fixed by its first half.** Among the numbers of a length that start with a
given half there is one palindrome: the half, and behind it its first digits in reverse, as many as
the length needs. So of the numbers of a length, nine times a power of ten are palindromes, the
power to the number of digits in a half behind the first. -/
theorem one_palindrome_of_each_half {length : Nat} (hlength : 1 ≤ length)
    (hlimit : length ≤ Error.digitLimit) :
    (∀ half : Int, 1 ≤ half → (decimal half).length = length - length / 2 →
      ∃ p, palindromes (half * 10 ^ (length / 2)) ((half + 1) * 10 ^ (length / 2) - 1) = .ok [p] ∧
        decimal p = decimal half ++ ((decimal half).take (length / 2)).reverse) ∧
    ∃ found, palindromes (10 ^ (length - 1)) (10 ^ length - 1) = .ok found ∧
      found.length = 9 * 10 ^ ((length - 1) / 2) := by
  constructor
  · intro half hone hhalf
    obtain ⟨k, rfl⟩ : ∃ k : Nat, half = k := ⟨half.toNat, by omega⟩
    have hpos : 0 < k := by omega
    have hten : 0 < 10 ^ (length / 2) := Nat.pow_pos (by decide)
    have hlt : k * 10 ^ (length / 2) < (k + 1) * 10 ^ (length / 2) :=
      Nat.mul_lt_mul_of_pos_right (Nat.lt_succ_self k) hten
    have hwrites := writes_of_length hlimit (Nat.zero_lt_of_lt hlt)
      (bounds_of_half hlength hpos hhalf).2
    have hsearch := palindromes_below hlt hwrites
    rw [palindromesBetween_of_half hlength hpos hhalf] at hsearch
    push_cast at hsearch
    exact ⟨(palindromeOfHalf length k : Nat), hsearch, digits_palindromeOfHalf_eq hpos hhalf⟩
  · have hlt : 10 ^ (length - 1) < 10 ^ length := Nat.pow_lt_pow_right (by decide) (by omega)
    have hwrites := writes_of_length hlimit (Nat.zero_lt_of_lt hlt) (Nat.le_refl _)
    have hsearch := palindromes_below hlt hwrites
    push_cast at hsearch
    refine ⟨_, hsearch, ?_⟩
    rw [List.length_map, length_palindromesBetween_of_length hlength]

/-- Of the hundred numbers of five digits that start with 407, one is a palindrome, and there are
nine hundred palindromes of five digits. -/
theorem one_palindrome_of_407 :
    (∃ p, palindromes 40700 40799 = .ok [p] ∧ decimal p = "40704".toList) ∧
      ∃ found, palindromes 10000 99999 = .ok found ∧ found.length = 900 := by
  have hlength : 1 ≤ 5 := by decide
  obtain ⟨hhalf, hall⟩ := one_palindrome_of_each_half hlength (by decide)
  exact ⟨hhalf 407 (by decide) (by decide), hall⟩

/-- Among the numbers of one digit more than are written, nothing is found. -/
theorem no_palindrome_of_long_half :
    ¬ ∀ length : Nat, 1 ≤ length → ∀ half : Int, 1 ≤ half →
      (decimal half).length = length - length / 2 →
      ∃ p, palindromes (half * 10 ^ (length / 2)) ((half + 1) * 10 ^ (length / 2) - 1) =
        .ok [p] := by
  intro h
  have hdigits : ∀ k, (digits (10 ^ k)).length = k + 1 := length_digits_pow
  have hpos : ∀ k, 0 < 10 ^ k := fun k => Nat.pow_pos (by decide)
  have hhalf : ∀ k, 1 ≤ ((10 ^ k : Nat) : Int) ∧ (decimal (10 ^ k : Nat)).length = k + 1 :=
    fun k => ⟨Int.ofNat_le.mpr (hpos k), hdigits k⟩
  obtain ⟨p, hp⟩ := h 4301 (by decide) _ (hhalf 2150).1 (hhalf 2150).2
  have hlimit : Error.digitLimit < 4301 := by decide
  have hnone := palindromes_of_long_half hlimit (hpos 2150) (hdigits 2150)
  rw [hp] at hnone
  cases hnone

end RareSats
