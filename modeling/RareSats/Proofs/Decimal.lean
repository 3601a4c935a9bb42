/-
# Numbers and their digits

A number has at most `k` digits exactly if it lies below `10 ^ k`, and only zero starts
with a zero (`head?_digits_ne_zero`). Dividing by a power of ten drops as many digits at
the end (`digits_div_pow`), and digits are put behind a number by reading on from it
(`digits_ofDigitChars`). In a text a number ends at the first mark that is no digit
(`digits_append_mark_inj`).

Key theorems: `length_digits_le_iff`, `length_digits_eq_iff`, `digits_append_mark_inj`,
`head?_digits_ne_zero`, `digits_div_pow`, `digits_ofDigitChars`.
-/
import Mathlib.Algebra.Ring.Nat
import RareSats.Decimal

namespace RareSats

theorem ten_pow_eq_mul {j k m : Nat} (h : j = k + m) : 10 ^ j = 10 ^ k * 10 ^ m := by
  rw [h, Nat.pow_add]

theorem length_digits_pos (n : Nat) : 0 < (digits n).length :=
  Nat.length_toDigits_pos

theorem length_digits_le_iff {n k : Nat} (hk : 0 < k) : (digits n).length ≤ k ↔ n < 10 ^ k :=
  Nat.length_toDigits_le_iff (by decide) hk

/-- The numbers of `k` digits, apart from zero, are those from `10 ^ (k - 1)` on and below
`10 ^ k`. -/
theorem length_digits_eq_iff {n k : Nat} (hn : 0 < n) (hk : 0 < k) :
    (digits n).length = k ↔ 10 ^ (k - 1) ≤ n ∧ n < 10 ^ k := by
  have hpos := length_digits_pos n
  have hupper := length_digits_le_iff (n := n) hk
  have hlower : (digits n).length ≤ k - 1 ↔ n < 10 ^ (k - 1) := by
    rcases Nat.eq_zero_or_pos (k - 1) with hzero | hpred
    · rw [hzero, Nat.pow_zero]
      omega
    · exact length_digits_le_iff hpred
  omega

theorem length_digits_pow (k : Nat) : (digits (10 ^ k)).length = k + 1 :=
  (length_digits_eq_iff (Nat.pow_pos (by decide)) (Nat.succ_pos k)).mpr
    ⟨Nat.le_refl _, Nat.pow_lt_pow_right (by decide) (Nat.lt_succ_self k)⟩

theorem length_digits_mono {m n : Nat} (h : m ≤ n) : (digits m).length ≤ (digits n).length := by
  have hpos := length_digits_pos n
  have hn := (length_digits_le_iff hpos).mp (Nat.le_refl _)
  exact (length_digits_le_iff hpos).mpr (Nat.lt_of_le_of_lt h hn)

theorem isDigit_of_mem_digits {n : Nat} {c : Char} (hc : c ∈ digits n) : c.isDigit = true :=
  Nat.isDigit_of_mem_toDigits (by decide) (by decide) hc

theorem digits_injective {m n : Nat} (h : digits m = digits n) : m = n := by
  rw [← ofDigits_digits m, h, ofDigits_digits]

/-- A number ends where a mark that is no digit stands behind it. -/
theorem digits_append_mark_inj {m n : Nat} {mark : Char} {rest rest' : List Char}
    (hmark : mark.isDigit = false) :
    digits m ++ mark :: rest = digits n ++ mark :: rest' ↔ m = n ∧ rest = rest' := by
  have htake : ∀ (k : Nat) (behind : List Char),
      (digits k ++ mark :: behind).takeWhile Char.isDigit = digits k := by
    intro k behind
    rw [List.takeWhile_append_of_pos fun c hc => isDigit_of_mem_digits hc]
    simp [hmark]
  constructor
  · intro h
    have hdigits := congrArg (List.takeWhile Char.isDigit) h
    rw [htake, htake] at hdigits
    rw [hdigits] at h
    exact ⟨digits_injective hdigits, (List.cons.inj (List.append_cancel_left h)).2⟩
  · rintro ⟨rfl, rfl⟩
    rfl

theorem digits_of_ten_le {n : Nat} (h : 10 ≤ n) :
    digits n = digits (n / 10) ++ [Nat.digitChar (n % 10)] :=
  Nat.toDigits_of_base_le (by decide) h

theorem head?_digits_ne_zero {n : Nat} (hn : 0 < n) : (digits n).head? ≠ some '0' := by
  induction n using Nat.strongRecOn with
  | _ n ih =>
    by_cases hten : n < 10
    · have hall : ∀ k < 10, 0 < k → [Nat.digitChar k].head? ≠ some '0' := by decide
      rw [digits, Nat.toDigits_of_lt_base hten]
      exact hall n hten hn
    · obtain ⟨c, front, hfront⟩ := List.exists_cons_of_length_pos (length_digits_pos (n / 10))
      have hfirst := ih (n / 10) (by omega) (by omega)
      rw [hfront] at hfirst
      rw [digits_of_ten_le (by omega), hfront]
      exact hfirst

theorem digits_div_pow (n : Nat) :
    ∀ j, j < (digits n).length → ∃ low, digits n = digits (n / 10 ^ j) ++ low ∧ low.length = j
  | 0, _ => ⟨[], by simp⟩
  | j + 1, hj => by
    obtain ⟨low, hlow, hlen⟩ := digits_div_pow n j (by omega)
    have hge : 10 ^ (j + 1) ≤ n := by
      rw [← Nat.not_lt, ← length_digits_le_iff (Nat.succ_pos j)]
      omega
    have hten : 10 ≤ n / 10 ^ j := by
      rw [Nat.le_div_iff_mul_le (Nat.pow_pos (by decide)), Nat.mul_comm, ← Nat.pow_succ]
      exact hge
    rw [digits_of_ten_le hten, Nat.div_div_eq_div_mul, ← Nat.pow_succ] at hlow
    exact ⟨_ :: low, by rw [hlow, List.append_assoc]; rfl, by rw [List.length_cons, hlen]⟩

theorem exists_digitChar_eq {c : Char} (hc : c.isDigit = true) :
    ∃ d, d < 10 ∧ Nat.digitChar d = c := by
  have hrange : 48 ≤ c.toNat ∧ c.toNat ≤ 57 := Char.isDigit_iff_toNat.mp hc
  refine ⟨c.toNat - 48, by omega, Char.toNat_inj.mp ?_⟩
  rw [Nat.toNat_digitChar_of_lt_ten (by omega)]
  omega

/-- Digits that are read after a number other than zero stand behind its digits. -/
theorem digits_ofDigitChars {cs : List Char} (hcs : ∀ c ∈ cs, c.isDigit = true) :
    ∀ {k : Nat}, 0 < k → digits (Nat.ofDigitChars 10 cs k) = digits k ++ cs := by
  induction cs with
  | nil => intro k _; simp
  | cons c cs ih =>
    intro k hk
    obtain ⟨d, hd, rfl⟩ := exists_digitChar_eq (hcs c List.mem_cons_self)
    have hstep : digits (10 * k + d) = digits k ++ [Nat.digitChar d] := by
      rw [← Nat.toDigits_of_lt_base hd]
      exact (Nat.toDigits_append_toDigits (by decide) hk hd).symm
    rw [Nat.ofDigitChars_cons_digitChar_of_lt_ten hd,
      ih (fun e he => hcs e (List.mem_cons_of_mem _ he)) (by omega), hstep, List.append_assoc]
    rfl

end RareSats
