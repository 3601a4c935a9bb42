/-
# Scalars in received data

A sender may write an integer as a boolean, as a number without a fraction or as a
text, and a boolean as a number or as a word. Whatever has one meaning is taken.

Key definitions: `integerOfText`, `checkInteger`, `checkBoolean`, `RequestId`,
`checkRequestId`, `checkText`.
-/
import RareSats.Decimal
import RareSats.Error
import RareSats.Text.Blank
import RareSats.Wire.Issue

namespace RareSats

/-- A digit other than zero. -/
def isPositiveDigit (c : Char) : Bool :=
  '1' ≤ c && c ≤ '9'

/-- The text without one plus sign before a number that has no minus sign. -/
def dropPlus : List Char → List Char
  | '+' :: '-' :: rest => '+' :: '-' :: rest
  | '+' :: rest => rest
  | s => s

/-- What follows the leading zeros, of which `prev` is the last one read. Underscores may stand among
them, and a minus sign may follow them. One zero is kept before a point, and where nothing else
follows. -/
def afterZeros (prev : Char) : List Char → Option (List Char)
  | [] => some [prev]
  | c :: rest =>
    if c = '0' ∨ c = '_' then afterZeros c rest
    else if isPositiveDigit c ∨ c = '-' then some (c :: rest)
    else if c = '.' then some (prev :: c :: rest)
    else none

/-- The text without leading zeros, if it starts as a number does. -/
def dropZeros : List Char → Option (List Char)
  | [] => none
  | c :: rest =>
    if c = '0' then afterZeros c rest
    else if isPositiveDigit c ∨ c = '-' then some (c :: rest)
    else none

/-- The text without a point and the zeros after it, of which there must be one. -/
def dropZeroFraction (s : List Char) : List Char :=
  match s.dropWhile (· ≠ '.') with
  | _ :: '0' :: zeros => if zeros.all (· = '0') then s.takeWhile (· ≠ '.') else s
  | _ => s

/-- Two underscores stand side by side. -/
def hasDoubleUnderscore (s : List Char) : Bool :=
  (s.zip s.tail).any fun p => p.1 = '_' && p.2 = '_'

/-- The text without the underscores between its digits, if they stand one by one. -/
def dropUnderscores (s : List Char) : List Char :=
  if s.head? = some '_' || s.getLast? = some '_' || hasDoubleUnderscore s then s
  else s.filter (· ≠ '_')

/-- Why a text is not read as an integer. -/
inductive IntegerFault where
  | malformed
  | tooLong
deriving DecidableEq, Repr

/-- The natural number of digits that do not start with a zero, unless it is the only one. -/
def plainNatural? : List Char → Option Nat
  | ['0'] => some 0
  | c :: rest =>
    if isPositiveDigit c && rest.all Char.isDigit && rest.length < Error.digitLimit then
      some (ofDigits (c :: rest))
    else none
  | [] => none

/-- The integer of an optional minus sign and digits. -/
def plainInteger? : List Char → Option Int
  | '-' :: ds => (plainNatural? ds).map fun n => -(n : Int)
  | ds => (plainNatural? ds).map Int.ofNat

/-- The text without the leading zeros after its minus sign, or at its start if it has none. -/
def dropZerosAfterMinus : List Char → Option (List Char)
  | '-' :: rest => (dropZeros rest).map ('-' :: ·)
  | s => dropZeros s

/-- The text without all that may stand in a text of an integer besides a minus sign and digits. -/
def plainForm? (s : List Char) : Option (List Char) :=
  (dropZerosAfterMinus (dropPlus (trimBlanks s))).map fun ds => dropUnderscores (dropZeroFraction ds)

/-- The digits at the start of a text, if the first of them is not a zero. -/
def openingDigits : List Char → List Char
  | c :: rest => if isPositiveDigit c then c :: rest.takeWhile Char.isDigit else []
  | [] => []

/-- The text opens with more digits than are converted. A minus sign may come before them, and
anything after them. -/
def opensTooLong : List Char → Bool
  | '-' :: rest => Error.digitLimit < (openingDigits rest).length
  | s => Error.digitLimit < (openingDigits s).length

/-- The integer of a text, with blanks around it, a sign, leading zeros, underscores between the
digits and a fraction of zeros allowed. Too many digits are noted as such only where nothing comes
before them that has to be left out. -/
def integerOfText (s : List Char) : Except IntegerFault Int :=
  if opensTooLong s then .error .tooLong
  else
    match (plainForm? s).bind plainInteger? with
    | some n => .ok n
    | none => .error .malformed

/-- The bound on integers that come as numbers with a point or an exponent: they fit a word of 64
bits with a sign. -/
def wordBound : Int := 9223372036854775808

/-- An integer, in any of its spellings. -/
def checkInteger : Json → Checked Int
  | .int n => .ok n
  | .bool b => .ok (if b then 1 else 0)
  | .float x =>
    if !x.isFinite then .fail .notFinite
    else
      match x.toInt? with
      | none => .fail .fraction
      | some n => if -wordBound < n ∧ n < wordBound then .ok n else .fail .integerTextLength
  | .str t =>
    match t.string? with
    | none => .fail .surrogate
    | some s =>
      match integerOfText s.toList with
      | .ok n => .ok n
      | .error .malformed => .fail .integerText
      | .error .tooLong => .fail .integerTextLength
  | _ => .fail .notInteger

/-- The words for false. -/
def falseWords : List String := ["0", "f", "n", "no", "off", "false"]

/-- The words for true. -/
def trueWords : List String := ["1", "t", "y", "yes", "on", "true"]

/-- The boolean of a word, in letters of any case. -/
def booleanOfText? (s : String) : Option Bool :=
  let word := s.map Char.toLower
  if falseWords.contains word then some false
  else if trueWords.contains word then some true
  else none

/-- The boolean of zero and of one. -/
def booleanOfInteger? (n : Int) : Option Bool :=
  if n = 0 then some false else if n = 1 then some true else none

/-- What a check finds that has no word for its boolean. -/
def booleanOr (cause : Cause) : Option Bool → Checked Bool
  | some b => .ok b
  | none => .fail cause

/-- A boolean, in any of its spellings. -/
def checkBoolean : Json → Checked Bool
  | .bool b => .ok b
  | .int n =>
    if -wordBound ≤ n ∧ n < wordBound then booleanOr .booleanText (booleanOfInteger? n)
    else .fail .notBoolean
  | .float x =>
    match x.toInt? with
    | some n =>
      if -wordBound < n ∧ n < wordBound then booleanOr .booleanText (booleanOfInteger? n)
      else .fail .notBoolean
    | none => .fail .notBoolean
  | .str t =>
    match t.string? with
    | none => .fail .surrogate
    | some s => booleanOr .booleanText (booleanOfText? s)
  | _ => .fail .notBoolean

/-- The identifier of a request. -/
inductive RequestId where
  | number (n : Int)
  | text (t : Text)
deriving DecidableEq, Repr

/-- An identifier, or none. Texts are taken as they are, and other scalars as integers. -/
def checkRequestId : Json → Checked (Option RequestId)
  | .null => .ok none
  | .int n => .ok (some (.number n))
  | .str t => .ok (some (.text t))
  | j =>
    match checkInteger j with
    | .ok n => .ok (some (.number n))
    | .error issues =>
      .error ((issues.map fun i => ⟨i.cause, .key "int" :: i.path⟩) ++
        [⟨.notString, [.key "str"]⟩])

/-- A text, which has one spelling. -/
def checkText : Json → Checked Text
  | .str t => .ok t
  | _ => .fail .notString

end RareSats
