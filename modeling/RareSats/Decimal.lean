/-
# Decimal digits

Numbers as lists of decimal digits, the most significant first, without a leading
zero. There may be a limit on the digits of numbers that are written.

Key definitions: `digits`, `ofDigits`, `decimal`, `DigitLimit`, `DigitLimit.writes`.
Key theorem: `ofDigits_digits`.
-/

namespace RareSats

/-- The decimal digits of a number, the most significant first. -/
def digits (n : Nat) : List Char :=
  Nat.toDigits 10 n

/-- The number with given decimal digits. -/
def ofDigits (ds : List Char) : Nat :=
  Nat.ofDigitChars 10 ds 0

theorem ofDigits_digits (n : Nat) : ofDigits (digits n) = n :=
  Nat.ofDigitChars_ten_toDigits

/-- The decimal text of an integer. -/
def decimal : Int → List Char
  | .ofNat n => digits n
  | .negSucc n => '-' :: digits (n + 1)

/-- How many decimal digits a number may have that is written. -/
inductive DigitLimit where
  | unlimited
  | atMost (count : Nat)
deriving DecidableEq, Repr

/-- The number has not too many digits to be written. -/
def DigitLimit.writes (limit : DigitLimit) (n : Int) : Bool :=
  match limit with
  | unlimited => true
  | atMost count => (digits n.natAbs).length ≤ count

theorem DigitLimit.writes_unlimited (n : Int) : unlimited.writes n = true := rfl

end RareSats
