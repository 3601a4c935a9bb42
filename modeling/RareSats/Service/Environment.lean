/-
# The environment

The environment holds the values of variables by their names, in the order in which
the names were first given. Names and values are kept as bytes that a zero byte ends,
with an equals sign between them, so not every text can be one of them. Bytes that are
part of no character are carried by surrogates of their own, and what is read is the
text of the bytes.

Key definitions: `Environment`, `Environment.fault?`, `Environment.define`,
`Environment.ofVariables`.
-/
import RareSats.Error
import RareSats.OrderedMap
import RareSats.Text.Utf8

namespace RareSats

/-- Variables with their values. -/
abbrev Environment := List (Text × Text)

namespace Environment

/-- The surrogate carries a byte. -/
def carriesByte (p : CodePoint) : Bool :=
  (Utf8.escapedByte? p).isSome

/-- A text holds a character. -/
def holds (c : Char) (t : Text) : Bool :=
  t.points.contains (.scalar c)

/-- Why a variable cannot be defined, if it cannot. -/
def fault? (name value : Text) : Option Error :=
  (name.encodingFault? carriesByte).or <|
    (value.encodingFault? carriesByte).or <|
      if holds '\x00' name || holds '\x00' value then some .zeroInVariable
      else if holds '=' name then some .equalsInName
      else if name.points.isEmpty then some .emptyName
      else none

/-- The environment in which a variable has a value. -/
def define (environment : Environment) (name value : Text) : Except Error Environment :=
  match fault? name value with
  | some e => .error e
  | none => .ok (putEntry name.joinEscapedBytes value.joinEscapedBytes environment)

/-- The environment of variables that are defined one after another. -/
def ofVariables (given : List (Text × Text)) : Except Error Environment :=
  given.foldlM (fun environment v => environment.define v.1 v.2) []

end Environment

end RareSats
