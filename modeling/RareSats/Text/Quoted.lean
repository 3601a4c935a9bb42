/-
# Quoted text

The form in which a message shows a text that may hold anything: between
quotes, with the quote, the backslash and all characters without a visible form
escaped. The quotes are single, unless the text holds a single quote and no
double one.

Key definitions: `quoteFor`, `escapeChar`, `escape`, `quoted`.
-/
import RareSats.Text.CodePoint
import RareSats.Text.Unprintable

namespace RareSats

/-- The quote around a text. -/
def quoteFor (t : Text) : Char :=
  let holds (c : Char) : Bool := t.points.contains (.scalar c)
  if holds '\x27' && !holds '\x22' then '\x22' else '\x27'

/-- The lower-case hexadecimal digits of `n`, at least `width` of them. -/
def hexDigits (width n : Nat) : List Char :=
  let digits := Nat.toDigits 16 n
  List.replicate (width - digits.length) '0' ++ digits

/-- The form of one character between quotes `quote`. -/
def escapeChar (quote c : Char) : List Char :=
  if c = quote || c = '\\' then ['\\', c]
  else if c = '\n' then ['\\', 'n']
  else if c = '\r' then ['\\', 'r']
  else if c = '\t' then ['\\', 't']
  else if isPrintable c then [c]
  else if c.toNat < 0x100 then '\\' :: 'x' :: hexDigits 2 c.toNat
  else if c.toNat < 0x10000 then '\\' :: 'u' :: hexDigits 4 c.toNat
  else '\\' :: 'U' :: hexDigits 8 c.toNat

/-- The form of one code point between quotes `quote`. -/
def escape (quote : Char) : CodePoint → List Char
  | .scalar c => escapeChar quote c
  | .surrogate offset => '\\' :: 'u' :: hexDigits 4 (CodePoint.surrogate offset).value

/-- The quoted form of a text. -/
def quoted (t : Text) : String :=
  let quote := quoteFor t
  String.ofList (quote :: t.points.flatMap (escape quote) ++ [quote])

end RareSats
