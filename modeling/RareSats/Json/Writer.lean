/-
# Writing JSON

A value is written without blanks. In strings the quote, the backslash, the
control characters and the surrogates are escaped.

Key definitions: `Json.quote`, `Json.render`.
-/
import RareSats.Json.Basic

namespace RareSats.Json

/-- The escape of a unit of two bytes. -/
def unitEscape (n : Nat) : List Char :=
  let hex := Nat.toDigits 16 n
  '\\' :: 'u' :: (List.replicate (4 - hex.length) '0' ++ hex)

/-- A code point inside quotes. -/
def escapePoint : CodePoint → List Char
  | .scalar c =>
    if c = '\x22' || c = '\\' then ['\\', c]
    else if c.toNat < 0x20 then unitEscape c.toNat
    else [c]
  | .surrogate offset => unitEscape (CodePoint.surrogate offset).value

/-- A text between quotes. -/
def quote (t : Text) : String :=
  String.ofList ('\x22' :: t.points.flatMap escapePoint ++ ['\x22'])

mutual

/-- The text of a value. -/
def render : Json → String
  | null => "null"
  | bool b => if b then "true" else "false"
  | int n => toString n
  | float x => x.text
  | str s => quote s
  | arr items => "[" ++ String.intercalate "," (renderItems items) ++ "]"
  | obj members => "\x7b" ++ String.intercalate "," (renderMembers members) ++ "\x7d"

/-- The texts of values. -/
def renderItems : List Json → List String
  | [] => []
  | j :: rest => render j :: renderItems rest

/-- The texts of members. -/
def renderMembers : List (Text × Json) → List String
  | [] => []
  | (name, j) :: rest => (quote name ++ ":" ++ render j) :: renderMembers rest

end

end RareSats.Json
