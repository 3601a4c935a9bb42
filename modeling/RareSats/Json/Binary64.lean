/-
# Numbers of binary floating point

A number of binary64 is an integer of at most 53 bits times a power of two, or an
infinity, or not a number at all. A decimal is rounded to the nearest such number,
and of two equally near ones to the one with the even integer.

Key definitions: `Binary64`, `roundDiv`, `Binary64.ofDecimal`, `Binary64.toInt?`.
Key theorem: `roundDiv_near`.
-/

namespace RareSats

/-- A number of binary64: `significand * 2 ^ exponent` with a sign, or no finite number. -/
inductive Binary64 where
  | finite (negative : Bool) (significand : Nat) (exponent : Int)
  | infinite (negative : Bool)
  | nan
deriving DecidableEq, Repr

/-- The integer nearest to a quotient, and the even one of two equally near ones. -/
def roundDiv (num den : Nat) : Nat :=
  let q := num / den
  let twice := 2 * (num % den)
  if den < twice || (twice = den && q % 2 = 1) then q + 1 else q

/-- A rounded quotient is at most half a unit away from the quotient. -/
theorem roundDiv_near (num den : Nat) (h : 0 < den) :
    2 * (roundDiv num den * den) ≤ 2 * num + den ∧ 2 * num ≤ 2 * (roundDiv num den * den) + den := by
  have hdiv := Nat.div_add_mod num den
  have hmod := Nat.mod_lt num h
  have hcomm := Nat.mul_comm (num / den) den
  unfold roundDiv
  simp only [Bool.or_eq_true, Bool.and_eq_true, decide_eq_true_eq]
  split
  · have hsucc := Nat.add_one_mul (num / den) den
    omega
  · omega

namespace Binary64

/-- The least exponent of a number. -/
def minExponent : Int := -1074

/-- The greatest exponent of a number. -/
def maxExponent : Int := 971

/-- The nearest number with a given exponent to the quotient of two integers. -/
def significandAt (num den : Nat) (exponent : Int) : Nat :=
  if exponent < 0 then roundDiv (num * Nat.pow 2 (-exponent).toNat) den
  else roundDiv num (den * Nat.pow 2 exponent.toNat)

/-- The number nearest to the quotient of two positive integers. -/
def ofQuotient (negative : Bool) (num den : Nat) : Binary64 :=
  let guess : Int := (num.log2 : Int) - den.log2 - 53
  let start := max guess minExponent
  -- The guess is at most one too small, and a rounding may carry into one more bit.
  let fits (e : Int) : Bool := significandAt num den e < Nat.pow 2 53
  let exponent :=
    if fits start then start
    else if fits (start + 1) then start + 1
    else start + 2
  if maxExponent < exponent then .infinite negative
  else .finite negative (significandAt num den exponent) exponent

/-- The number nearest to the decimal `mantissa * 10 ^ exponent`. Decimals that are far too great or
far too small are settled by their number of digits. -/
def ofDecimal (negative : Bool) (mantissa : Nat) (exponent : Int) : Binary64 :=
  if mantissa = 0 then .finite negative 0 0
  else
    let magnitude := ((Nat.toDigits 10 mantissa).length : Int) + exponent
    if 400 < magnitude then .infinite negative
    else if magnitude < -400 then .finite negative 0 0
    else if exponent < 0 then ofQuotient negative mantissa (Nat.pow 10 (-exponent).toNat)
    else ofQuotient negative (mantissa * Nat.pow 10 exponent.toNat) 1

/-- The number is finite. -/
def isFinite : Binary64 → Bool
  | finite .. => true
  | _ => false

/-- The integer that a number is, if it is one. -/
def toInt? : Binary64 → Option Int
  | finite negative m e =>
    let signed (n : Nat) : Int := if negative then -n else n
    if 0 ≤ e then some (signed (m * Nat.pow 2 e.toNat))
    else if m % Nat.pow 2 (-e).toNat = 0 then some (signed (m / Nat.pow 2 (-e).toNat))
    else none
  | _ => none

/-- The exact decimal expansion of a finite number, as a numeral with a point or an exponent. -/
def text : Binary64 → String
  | finite negative m e =>
    let sign := if negative then "-" else ""
    if 0 ≤ e then sign ++ toString (m * Nat.pow 2 e.toNat) ++ ".0"
    else sign ++ toString (m * Nat.pow 5 (-e).toNat) ++ "e" ++ toString e
  | infinite negative => if negative then "-Infinity" else "Infinity"
  | nan => "NaN"

end Binary64

end RareSats
