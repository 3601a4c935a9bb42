/-
# Causes of failure

One constructor per cause, and one place for the wording. An error that
`isReportable` is an answer to the caller of a query; the others are faults of
the arguments or of the surroundings. The wording of some errors names numbers: where
these are too long to be written there is another error in their place.

Key definitions: `ReferenceFault`, `RangeFault`, `Error`, `Error.message`,
`Error.isReportable`, `Error.naming`, `Text.encodingFault?`.
-/
import RareSats.Decimal
import RareSats.Schedule
import RareSats.Text.Quoted

namespace RareSats

/-- What is wrong with the text of an outpoint. -/
inductive ReferenceFault where
  | missingSeparator
  | transaction
  | outputIndex
  | leadingZero
  | outOfRange
deriving DecidableEq, Repr

/-- The wording of a fault in an outpoint. -/
def ReferenceFault.message : ReferenceFault → String
  | .missingSeparator => "missing ':' separator"
  | .transaction => "txid must be 64 hex characters"
  | .outputIndex => "vout must be a decimal integer"
  | .leadingZero => "vout has leading zeros"
  | .outOfRange => "vout out of range"

/-- The largest number of decimal digits that is converted to a number and back. -/
def Error.digitLimit : Nat := 4300

/-- The limit on numbers that are written, where no other one is given. -/
def DigitLimit.standard : DigitLimit :=
  .atMost Error.digitLimit

/-- The wording for a number that is not written. -/
def Error.unwritableMessage : String :=
  s!"Exceeds the limit ({digitLimit} digits) for integer string conversion; " ++
    "use sys.set_int_max_str_digits() to increase the limit"

/-- Why two bounds do not describe sats of one block. -/
inductive RangeFault where
  /-- The range from `start` to `stop` holds no sat. -/
  | empty (start stop : Int)
  /-- The sat `index` is never issued. -/
  | outsideSupply (index : Int)
  /-- A sat is never issued whose index is too long to be written. -/
  | unwritableIndex
  /-- The first and the last sat come from two blocks. -/
  | straddles (start stop : Int)
deriving DecidableEq, Repr

/-- The wording for a sat that is never issued. -/
def outsideSupplyMessage (index : Int) : String :=
  s!"sat {index} is outside of the supply [0, {supply})"

/-- The wording of a fault in a range. -/
def RangeFault.message : RangeFault → String
  | .empty start stop => s!"invalid sat range: start {start} >= end {stop}"
  | .outsideSupply index => "invalid sat range: " ++ outsideSupplyMessage index
  | .unwritableIndex => "invalid sat range: " ++ Error.unwritableMessage
  | .straddles start stop =>
    s!"invalid sat range: start {start} and end {stop} are in different blocks"

/-- The causes of failure. -/
inductive Error where
  /-- A sat index outside of the supply. -/
  | outsideSupply (index : Int)
  /-- An epoch below zero. -/
  | negativeEpoch
  /-- Bounds that are not those of a range of one block. -/
  | invalidRange (fault : RangeFault)
  /-- A reference that is not an outpoint. -/
  | malformedReference (reference : Text) (fault : ReferenceFault)
  /-- A decimal of more digits than are ever converted. -/
  | tooManyDigits (count : Nat)
  /-- A token that names no rarity kind. -/
  | unknownKind (token : Text)
  /-- A token that names no named rarity. -/
  | unknownNamedRarity (token : Text)
  /-- The greatest of no rarities. -/
  | emptyMaximum
  /-- An outpoint that the index does not hold. -/
  | unknownReference (reference : String)
  /-- The index does not track sats. -/
  | satsNotTracked
  /-- The index failed while `reference` was resolved. -/
  | lookupFailed (reference reason : Text)
  /-- The index refused a lookup. -/
  | refused (message : Text)
  /-- The index broke down during a lookup. -/
  | broken (message : Text)
  /-- The bounds of a search for palindromes are negative or inverted. -/
  | palindromeBounds (lo hi : Int)
  /-- A number of more digits than are ever written. -/
  | unwritableNumber
  /-- A division by zero. -/
  | divisionByZero
  /-- A walk that moves away from its end. -/
  | endlessWalk
  /-- A curated interval without a sat. -/
  | emptyInterval (lo hi : Int)
  /-- A curated interval that starts before `prevLo` to `prevHi` ends. -/
  | overlappingInterval (lo hi prevLo prevHi : Int)
  /-- A kind without curated intervals. -/
  | notCurated (token : String)
  /-- A kind that is not decided on its own. -/
  | notEvaluated (token : String)
  /-- A range that is written with fewer than two bounds. -/
  | boundsMissing (count : Nat)
  /-- A range that is written with more than two bounds. -/
  | boundsExtra
  /-- A log level without a meaning. -/
  | unknownLogLevel (name : Text)
  /-- A service without a name. -/
  | untitled
  /-- A file that is not there. -/
  | missingFile (path : Text)
  /-- A directory in place of a file. -/
  | directory (path : Text)
  /-- A path that is too long, or a part of it. -/
  | longPath (path : Text)
  /-- A zero character in a variable of the environment. -/
  | zeroInVariable
  /-- A variable of the environment whose name holds an equals sign. -/
  | equalsInName
  /-- A variable of the environment without a name. -/
  | emptyName
  /-- A JSON text with more brackets around brackets than are followed. -/
  | unreadableNesting (isArray : Bool)
  /-- A value with more levels than are ever sent. -/
  | unsendableNesting
  /-- Surrogates at a position of a text, which so has no encoding. -/
  | unencodable (position : Nat) (run : List CodePoint)
deriving DecidableEq, Repr

namespace Error

/-- The number can be written. -/
def isWritable (n : Int) : Bool :=
  DigitLimit.standard.writes n

/-- The error `e`, whose wording names some numbers, or the one in its place if one of them is not
written. -/
def naming (limit : DigitLimit) (numbers : List Int) (e : Error) : Error :=
  if numbers.all limit.writes then e else unwritableNumber

/-- The wording for surrogates that have no encoding. -/
def unencodableMessage (position : Nat) (run : List CodePoint) : String :=
  match run with
  | [p] =>
    "'utf-8' codec can't encode character '\\u" ++ String.ofList (hexDigits 4 p.value) ++
      s!"' in position {position}: surrogates not allowed"
  | _ =>
    let last := position + run.length - 1
    s!"'utf-8' codec can't encode characters in position {position}-{last}: " ++
      "surrogates not allowed"

/-- The wording of an error. -/
def message : Error → Text
  | outsideSupply index => outsideSupplyMessage index
  | negativeEpoch => "negative shift count"
  | invalidRange fault => fault.message
  | malformedReference reference fault =>
    Text.ofString "invalid outpoint '" ++ reference ++ Text.ofString ("': " ++ fault.message)
  | tooManyDigits count =>
    s!"Exceeds the limit ({digitLimit} digits) for integer string conversion: value has {count} digits; use sys.set_int_max_str_digits() to increase the limit"
  | unknownKind token => Text.ofString "invalid rarity: " ++ token
  | unknownNamedRarity token => quoted token ++ " is not a valid NamedRarity"
  | emptyMaximum => "max() arg is an empty sequence"
  | unknownReference reference => "output not found: " ++ reference
  | satsNotTracked => "Sat index is not available"
  | lookupFailed reference reason =>
    Text.ofString "index lookup failed for " ++ reference ++ Text.ofString ": " ++ reason
  | refused text => text
  | broken text => text
  | palindromeBounds lo hi => s!"invalid palindrome range [{lo}, {hi}]"
  | unwritableNumber => unwritableMessage
  | divisionByZero => "integer division or modulo by zero"
  | endlessWalk => "the walk moves away from its end"
  | emptyInterval lo hi => s!"empty curated interval ({lo}, {hi})"
  | overlappingInterval lo hi prevLo prevHi =>
    s!"curated interval ({lo}, {hi}) overlaps or precedes ({prevLo}, {prevHi})"
  | notCurated token => token ++ " is not a curated rarity kind"
  | notEvaluated token => token
  | boundsMissing count => s!"not enough values to unpack (expected 2, got {count})"
  | boundsExtra => "too many values to unpack (expected 2)"
  | unknownLogLevel name => "Unknown level: " ++ quoted name
  | untitled => "A title must be provided for OpenAPI, e.g.: 'My API'"
  | missingFile path => "[Errno 2] No such file or directory: " ++ quoted path
  | directory path => "[Errno 21] Is a directory: " ++ quoted path
  | longPath path => "[Errno 36] File name too long: " ++ quoted path
  | zeroInVariable => "embedded null byte"
  | equalsInName => "illegal environment variable name"
  | emptyName => "[Errno 22] Invalid argument"
  | unreadableNesting isArray =>
    "maximum recursion depth exceeded while decoding a JSON " ++
      (if isArray then "array" else "object") ++ " from a unicode string"
  | unsendableNesting => "Maximum serialization depth exceeded"
  | unencodable position run => unencodableMessage position run

/-- An error that is reported to the caller of a query. -/
def isReportable : Error → Bool
  | invalidRange _ | malformedReference .. | unknownKind _ | unknownReference _
  | satsNotTracked | lookupFailed .. | refused _ => true
  | _ => false

end Error

namespace Text

/-- The position of the first surrogate that is not passed on, and it and the surrogates right after
it. -/
def surrogateRun? (passed : CodePoint → Bool) :
    (position : Nat) → List CodePoint → Option (Nat × List CodePoint)
  | _, [] => none
  | position, p :: rest =>
    if p.isSurrogate && !passed p then some (position, p :: rest.takeWhile CodePoint.isSurrogate)
    else surrogateRun? passed (position + 1) rest

/-- Why a text has no encoding, if it has none. -/
def encodingFault? (passed : CodePoint → Bool) (t : Text) : Option Error :=
  (surrogateRun? passed 0 t.points).map fun found => .unencodable found.1 found.2

end Text

end RareSats
