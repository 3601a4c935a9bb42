/-
# Reading JSON

The reader takes the grammar at its word, with three allowances: the words `NaN`,
`Infinity` and `-Infinity` are numbers, a surrogate may be escaped without its
partner, and of the members of one name the last value counts, at the place of the
first. An integer of too many digits, and a bracket inside too many others, are
refused in ways of their own.

Of two steps of the reader one takes at least one code point, so that twice as many
steps as the text has code points, and two more, are always enough.

Key definitions: `Json.ReadError`, `Json.readString`, `Json.readNumber`,
`Json.readValue`, `Json.read`, `Json.readUnicode`, `Json.readBytes`.
-/
import RareSats.Decimal
import RareSats.Error
import RareSats.Json.Basic
import RareSats.Json.Encoding

namespace RareSats.Json

/-- What is left to be read. -/
abbrev Input := List CodePoint

/-- Why a text is not read. -/
inductive ReadError where
  | malformed
  /-- An integer of `count` digits, more than are ever converted. -/
  | tooManyDigits (count : Nat)
  /-- An array or an object inside as many others as are followed. -/
  | tooDeep (isArray : Bool)
deriving DecidableEq, Repr

/-- A character between tokens. -/
def isBlank : CodePoint → Bool
  | .scalar c => c = ' ' || c = '\t' || c = '\n' || c = '\r'
  | .surrogate _ => false

/-- The input after the blanks that it starts with. -/
def skipBlanks (s : Input) : Input :=
  s.dropWhile isBlank

/-- The input after a word that it starts with. -/
def dropWord (word : String) (s : Input) : Option Input :=
  let points := word.toList.map CodePoint.scalar
  if s.take points.length = points then some (s.drop points.length) else none

/-- The value of a hexadecimal digit. -/
def hexValue? : CodePoint → Option Nat
  | .scalar c =>
    if '0' ≤ c ∧ c ≤ '9' then some (c.toNat - '0'.toNat)
    else if 'a' ≤ c ∧ c ≤ 'f' then some (c.toNat - 'a'.toNat + 10)
    else if 'A' ≤ c ∧ c ≤ 'F' then some (c.toNat - 'A'.toNat + 10)
    else none
  | .surrogate _ => none

/-- The unit of four hexadecimal digits. -/
def unit? (a b c d : CodePoint) : Option Nat := do
  return (((← hexValue? a) * 16 + (← hexValue? b)) * 16 + (← hexValue? c)) * 16 + (← hexValue? d)

/-- The character of an escape of one letter. -/
def escaped? : CodePoint → Option CodePoint
  | .scalar '\x22' => some (.scalar '\x22')
  | .scalar '\\' => some (.scalar '\\')
  | .scalar '/' => some (.scalar '/')
  | .scalar 'b' => some (.scalar '\x08')
  | .scalar 'f' => some (.scalar '\x0c')
  | .scalar 'n' => some (.scalar '\n')
  | .scalar 'r' => some (.scalar '\r')
  | .scalar 't' => some (.scalar '\t')
  | _ => none

/-- The pieces of a string up to its closing quote, and the input after it. -/
def readPieces : Input → Option (List CodePoint.Piece × Input)
  | [] => none
  | .scalar '\x22' :: rest => some ([], rest)
  | .scalar '\\' :: .scalar 'u' :: a :: b :: c :: d :: rest => do
    let unit ← unit? a b c d
    let (pieces, rest) ← readPieces rest
    return (.unit unit :: pieces, rest)
  | .scalar '\\' :: letter :: rest => do
    let point ← escaped? letter
    let (pieces, rest) ← readPieces rest
    return (.point point :: pieces, rest)
  | .scalar c :: rest =>
    if c = '\\' ∨ c.toNat < 0x20 then none
    else do
      let (pieces, rest) ← readPieces rest
      return (.point (.scalar c) :: pieces, rest)
  | .surrogate n :: rest => do
    let (pieces, rest) ← readPieces rest
    return (.point (.surrogate n) :: pieces, rest)

/-- The code points of a string up to its closing quote, and the input after it. An escaped pair of
surrogates is one character. -/
def readString (s : Input) : Option (List CodePoint × Input) := do
  let (pieces, rest) ← readPieces s
  return (← CodePoint.joinPairs pieces, rest)

/-- The digit at a code point. -/
def digit? : CodePoint → Option Char
  | .scalar c => if c.isDigit then some c else none
  | .surrogate _ => none

/-- The digits that the input starts with, and the input after them. -/
def readDigits (s : Input) : List Char × Input :=
  ((s.takeWhile (digit? · |>.isSome)).filterMap digit?, s.dropWhile (digit? · |>.isSome))

/-- The fraction that the input starts with: a point and at least one digit. -/
def readFraction : Input → List Char × Input
  | .scalar '.' :: rest =>
    match readDigits rest with
    | ([], _) => ([], .scalar '.' :: rest)
    | found => found
  | s => ([], s)

/-- A letter, a sign at will and at least one digit, and the input after them. -/
def readExponent : Input → Option (Int × Input)
  | .scalar c :: rest =>
    if c = 'e' ∨ c = 'E' then
      let (negative, rest) :=
        match rest with
        | .scalar '-' :: rest => (true, rest)
        | .scalar '+' :: rest => (false, rest)
        | rest => (false, rest)
      match readDigits rest with
      | ([], _) => none
      | (ds, rest) => some (if negative then -(ofDigits ds : Int) else ofDigits ds, rest)
    else none
  | _ => none

/-- The number that the input starts with after its sign: digits without a leading zero, then a
fraction and an exponent at will. Without these two it is an integer. -/
def readUnsigned (negative : Bool) (s : Input) : Except ReadError (Json × Input) :=
  let (whole, rest) :=
    match s with
    | .scalar '0' :: rest => (['0'], rest)
    | s => readDigits s
  if whole.isEmpty then .error .malformed
  else
    let (fraction, rest) := readFraction rest
    match readExponent rest with
    | some (exponent, rest) =>
      .ok (.float (.ofDecimal negative (ofDigits (whole ++ fraction)) (exponent - fraction.length)),
        rest)
    | none =>
      if !fraction.isEmpty then
        .ok (.float (.ofDecimal negative (ofDigits (whole ++ fraction)) (-fraction.length)), rest)
      else if Error.digitLimit < whole.length then .error (.tooManyDigits whole.length)
      else .ok (.int (if negative then -(ofDigits whole : Int) else ofDigits whole), rest)

/-- The number that the input starts with. -/
def readNumber (s : Input) : Except ReadError (Json × Input) :=
  match s with
  | .scalar '-' :: rest =>
    match dropWord "Infinity" rest with
    | some rest => .ok (.float (.infinite true), rest)
    | none => readUnsigned true rest
  | s => readUnsigned false s

/-- The value of a word that the input starts with, or of a number. -/
def readScalar (s : Input) : Except ReadError (Json × Input) :=
  match dropWord "null" s, dropWord "true" s, dropWord "false" s, dropWord "NaN" s,
      dropWord "Infinity" s with
  | some rest, _, _, _, _ => .ok (.null, rest)
  | _, some rest, _, _, _ => .ok (.bool true, rest)
  | _, _, some rest, _, _ => .ok (.bool false, rest)
  | _, _, _, some rest, _ => .ok (.float .nan, rest)
  | _, _, _, _, some rest => .ok (.float (.infinite false), rest)
  | _, _, _, _, _ => readNumber s

/-- The string that the input starts with, its opening quote included. -/
def readText : Input → Except ReadError (Text × Input)
  | .scalar '\x22' :: rest =>
    match readString rest with
    | some (points, rest) => .ok (⟨points⟩, rest)
    | none => .error .malformed
  | _ => .error .malformed

/-- One level less, for the content of an array or an object. -/
def enter (isArray : Bool) : (depth : Nat) → Except ReadError Nat
  | 0 => .error (.tooDeep isArray)
  | depth + 1 => .ok depth

mutual

/-- The value that the input starts with, read in at most `steps` steps and followed through at most
`depth` levels of brackets. -/
def readValue : (steps depth : Nat) → Input → Except ReadError (Json × Input)
  | 0, _, _ => .error .malformed
  | steps + 1, depth, s =>
    match s with
    | .scalar '\x22' :: _ => (readText s).map fun (t, rest) => (.str t, rest)
    | .scalar '[' :: rest => do
      let inside ← enter true depth
      match skipBlanks rest with
      | .scalar ']' :: rest => return (.arr [], rest)
      | rest =>
        let (items, rest) ← readItems steps inside rest
        return (.arr items, rest)
    | .scalar '\x7b' :: rest => do
      let inside ← enter false depth
      match skipBlanks rest with
      | .scalar '\x7d' :: rest => return (.obj [], rest)
      | rest =>
        let (members, rest) ← readMembers steps inside [] rest
        return (.obj members, rest)
    | s => readScalar s

/-- The items of an array up to its closing bracket. -/
def readItems : (steps depth : Nat) → Input → Except ReadError (List Json × Input)
  | 0, _, _ => .error .malformed
  | steps + 1, depth, s => do
    let (item, rest) ← readValue steps depth s
    match skipBlanks rest with
    | .scalar ']' :: rest => return ([item], rest)
    | .scalar ',' :: rest =>
      let (items, rest) ← readItems steps depth (skipBlanks rest)
      return (item :: items, rest)
    | _ => .error .malformed

/-- The members of an object up to its closing brace, after the members `sofar`. -/
def readMembers : (steps depth : Nat) → List (Text × Json) → Input →
    Except ReadError (List (Text × Json) × Input)
  | 0, _, _, _ => .error .malformed
  | steps + 1, depth, sofar, s => do
    let (name, rest) ← readText s
    match skipBlanks rest with
    | .scalar ':' :: rest =>
      let (value, rest) ← readValue steps depth (skipBlanks rest)
      let members := putEntry name value sofar
      match skipBlanks rest with
      | .scalar '\x7d' :: rest => return (members, rest)
      | .scalar ',' :: rest => readMembers steps depth members (skipBlanks rest)
      | _ => .error .malformed
    | _ => .error .malformed

end

/-- The value of a text, which holds nothing else but blanks. -/
def read (depth : Nat) (s : Input) : Except ReadError Json := do
  let (value, rest) ← readValue (2 * s.length + 2) depth (skipBlanks s)
  if (skipBlanks rest).isEmpty then return value else .error .malformed

/-- The value of a text that comes as a string. -/
def readUnicode (depth : Nat) (s : String) : Except ReadError Json :=
  read depth (Text.ofString s).points

/-- The value of a text that comes as bytes. -/
def readBytes (depth : Nat) (bytes : List UInt8) : Except ReadError Json :=
  match decodeBytes bytes with
  | some points => read depth points
  | none => .error .malformed

end RareSats.Json
