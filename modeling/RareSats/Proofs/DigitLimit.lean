/-
# Numbers that are written

A number is written under the standard limit exactly if it lies below a power of ten
(`DigitLimit.writes_standard_iff`). The numbers from zero up to one that is written are
written too, and all that tell of sats are. An error that names numbers is itself if they
are all written, and else the one that stands in its place (`Error.naming_cases`).

Key theorems: `DigitLimit.writes_standard_iff`, `DigitLimit.writes_of_le_supply`,
`Error.naming_cases`.
-/
import Mathlib.Algebra.Ring.Int.Defs
import RareSats.Error
import RareSats.Proofs.Decimal

namespace RareSats

namespace DigitLimit

variable {limit : DigitLimit} {m n : Int}

theorem writes_standard_iff : standard.writes n = true ↔ n.natAbs < 10 ^ Error.digitLimit := by
  rw [standard, writes, decide_eq_true_iff, length_digits_le_iff (by decide)]

theorem writes_standard_eq_false_iff :
    standard.writes n = false ↔ Error.digitLimit < (digits n.natAbs).length := by
  rw [standard, writes, decide_eq_false_iff_not, Nat.not_le]

/-- The first number of too many digits. -/
theorem writes_atMost_pow (count : Nat) : (atMost count).writes (10 ^ count) = false := by
  have hvalue : (10 ^ count : Int).natAbs = 10 ^ count := Int.natAbs_pow 10 count
  have hlength := length_digits_pow count
  refine decide_eq_false ?_
  rw [hvalue]
  omega

theorem writes_of_le (hm : 0 ≤ m) (hle : m ≤ n) (h : limit.writes n = true) :
    limit.writes m = true := by
  cases limit with
  | unlimited => rfl
  | atMost count =>
    have hlength : (digits m.natAbs).length ≤ (digits n.natAbs).length :=
      length_digits_mono (by omega)
    exact decide_eq_true (Nat.le_trans hlength (of_decide_eq_true h))

theorem writes_of_le_supply (hn : 0 ≤ n) (hle : n ≤ supply) : standard.writes n = true :=
  writes_of_le hn hle (by decide)

end DigitLimit

namespace Error

variable {limit : DigitLimit} {numbers : List Int} {e : Error}

theorem naming_of_forall (h : ∀ n ∈ numbers, limit.writes n = true) :
    naming limit numbers e = e :=
  if_pos (List.all_eq_true.mpr h)

theorem naming_unlimited (numbers : List Int) (e : Error) : naming .unlimited numbers e = e :=
  naming_of_forall fun _ _ => rfl

/-- An error that names numbers is itself, or one of the numbers is not written. -/
theorem naming_cases (limit : DigitLimit) (numbers : List Int) (e : Error) :
    naming limit numbers e = e ∨
      naming limit numbers e = unwritableNumber ∧ ∃ n ∈ numbers, limit.writes n = false := by
  by_cases h : ∀ n ∈ numbers, limit.writes n = true
  · exact Or.inl (naming_of_forall h)
  · refine Or.inr ⟨if_neg fun hall => h (List.all_eq_true.mp hall), ?_⟩
    simpa using h

end Error

end RareSats
