/-
# Palindromes among the numbers

A palindrome of a given number of digits is fixed by the first half of its
digits: the rest is that half in reverse, without the middle digit if the number
of digits is odd. So the palindromes between two bounds are found by walking the
possible first halves, one number of digits after the other, and at the ends of
the walk the bounds decide. The bounds are written to get at their digits.

Key definitions: `ReadsBothWays`, `isPalindrome`, `checkPalindrome`,
`palindromeOfHalf`, `palindromesWithin`, `palindromesBetween`, `palindromesUnder`,
`palindromes`.
-/
import RareSats.Decimal
import RareSats.Error

namespace RareSats

/-- A list that reads the same in both directions. -/
def ReadsBothWays {α : Type} (l : List α) : Prop :=
  l.reverse = l

instance {α : Type} [DecidableEq α] (l : List α) : Decidable (ReadsBothWays l) :=
  inferInstanceAs (Decidable (l.reverse = l))

/-- The decimal text of `n` reads the same in both directions. -/
def isPalindrome (n : Int) : Bool :=
  decide (ReadsBothWays (decimal n))

/-- The decimal text of `n` reads the same in both directions, if `n` can be written. -/
def checkPalindrome (n : Int) : Except Error Bool :=
  if DigitLimit.standard.writes n then .ok (isPalindrome n) else .error .unwritableNumber

/-- The palindrome of `length` digits that starts with the digits of `half`. -/
def palindromeOfHalf (length half : Nat) : Nat :=
  Nat.ofDigitChars 10 ((digits half).reverse.drop (length % 2)) half

/-- The least number of `length` digits. -/
def leastOfLength (length : Nat) : Nat :=
  if length = 1 then 0 else Nat.pow 10 (length - 1)

/-- A number, if it lies between the bounds. -/
def keepBetween (lo hi n : Nat) : List Nat :=
  if lo ≤ n ∧ n ≤ hi then [n] else []

/-- The palindromes from `lo` to `hi`, which are bounds of `length` digits, in ascending order. Only
the palindromes of the first and of the last half can lie outside the bounds. -/
def palindromesWithin (lo hi length : Nat) : List Nat :=
  let tail := Nat.pow 10 (length / 2)
  let first := lo / tail
  let last := hi / tail
  let inner := (List.range' (first + 1) (last - (first + 1))).map (palindromeOfHalf length)
  keepBetween lo hi (palindromeOfHalf length first) ++ inner ++
    if last = first then [] else keepBetween lo hi (palindromeOfHalf length last)

/-- The palindromes of `length` digits from `lo` to `hi`, in ascending order. -/
def palindromesOfLength (lo hi length : Nat) : List Nat :=
  palindromesWithin (max lo (leastOfLength length)) (min hi (Nat.pow 10 length - 1)) length

/-- The palindromes from `lo` to `hi`, in ascending order. -/
def palindromesBetween (lo hi : Nat) : List Nat :=
  let shortest := (digits lo).length
  let longest := (digits hi).length
  (List.range' shortest (longest + 1 - shortest)).flatMap (palindromesOfLength lo hi)

/-- The palindromes from `lo` to `hi`, which must be neither negative nor inverted, where numbers are
written under a limit. No number that is written on the way is longer than `hi`. -/
def palindromesUnder (limit : DigitLimit) (lo hi : Int) : Except Error (List Int) :=
  if lo < 0 ∨ hi < lo then .error (.naming limit [lo, hi] (.palindromeBounds lo hi))
  else if limit.writes hi then .ok ((palindromesBetween lo.toNat hi.toNat).map Int.ofNat)
  else .error .unwritableNumber

/-- The palindromes from `lo` to `hi`, which must be neither negative nor inverted. -/
def palindromes (lo hi : Int) : Except Error (List Int) :=
  palindromesUnder .standard lo hi

end RareSats
