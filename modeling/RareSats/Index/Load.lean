/-
# Loading a sat index

A snapshot is loaded from its text. What is not JSON, what is no snapshot, and what
the index does not accept, fail in ways of their own.

Key definitions: `LoadError`, `SatIndex.ofSnapshot`, `SatIndex.ofJson`,
`SatIndex.ofText`.
-/
import RareSats.Index.Basic
import RareSats.Json.Reader
import RareSats.Wire.Snapshot

namespace RareSats

/-- Why a snapshot is not loaded. -/
inductive LoadError where
  | notJson
  | invalid (issues : List Issue)
  | rejected (error : Error)
deriving DecidableEq, Repr

namespace SatIndex

/-- The index of a snapshot. -/
def ofSnapshot (s : Snapshot) : Except Error SatIndex :=
  ofEntries s.outputs s.blockHashes s.tracksSats

/-- The index of a snapshot that comes as a JSON value. -/
def ofJson [Platform] (j : Json) : Except LoadError SatIndex :=
  match checkSnapshot j with
  | .error issues => .error (.invalid issues)
  | .ok s =>
    match ofSnapshot s with
    | .error e => .error (.rejected e)
    | .ok ix => .ok ix

/-- The index of a snapshot that comes as a text. -/
def ofText [Platform] (text : String) : Except LoadError SatIndex :=
  match Json.readUnicode Platform.fileDepth text with
  | .ok j => ofJson j
  | .error .malformed => .error .notJson
  | .error (.tooManyDigits count) => .error (.rejected (.tooManyDigits count))
  | .error (.tooDeep isArray) => .error (.rejected (.unreadableNesting isArray))

end SatIndex

end RareSats
