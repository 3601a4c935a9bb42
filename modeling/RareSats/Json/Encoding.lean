/-
# The encoding of a JSON text

A JSON text comes as bytes in UTF-8, UTF-16 or UTF-32. A byte order mark tells
which, and without one the zero bytes among the first four do, since a JSON text
starts with an ASCII character. Encoded surrogates that form no pair are decoded
to themselves.

Key definitions: `Encoding`, `Encoding.detect`, `Encoding.decode`, `decodeBytes`.
-/
import RareSats.Text.Utf8

namespace RareSats.Json

/-- The encodings of a JSON text. -/
inductive Encoding where
  | utf8
  | utf16 (bigEndian : Bool)
  | utf32 (bigEndian : Bool)
deriving DecidableEq, Repr

namespace Encoding

/-- The encoding of a text without a byte order mark. -/
def guess : List Nat → Encoding
  | a :: b :: c :: d :: _ =>
    if a = 0 then if b = 0 then utf32 true else utf16 true
    else if b = 0 then if c = 0 ∧ d = 0 then utf32 false else utf16 false
    else utf8
  | [a, b] => if a = 0 then utf16 true else if b = 0 then utf16 false else utf8
  | _ => utf8

/-- The encoding of a text, and its bytes after the byte order mark. -/
def detect (bytes : List Nat) : Encoding × List Nat :=
  if bytes.take 4 = [0, 0, 0xFE, 0xFF] then (utf32 true, bytes.drop 4)
  else if bytes.take 4 = [0xFF, 0xFE, 0, 0] then (utf32 false, bytes.drop 4)
  else if bytes.take 2 = [0xFE, 0xFF] then (utf16 true, bytes.drop 2)
  else if bytes.take 2 = [0xFF, 0xFE] then (utf16 false, bytes.drop 2)
  else if bytes.take 3 = [0xEF, 0xBB, 0xBF] then (utf8, bytes.drop 3)
  else (guess bytes, bytes)

/-- The units of two bytes. -/
def units16 (bigEndian : Bool) : List Nat → Option (List Nat)
  | [] => some []
  | [_] => none
  | a :: b :: rest => do
    return (if bigEndian then a * 0x100 + b else b * 0x100 + a) :: (← units16 bigEndian rest)

/-- The code points of a text in UTF-32. -/
def decode32 (bigEndian : Bool) : List Nat → Option (List CodePoint)
  | [] => some []
  | a :: b :: c :: d :: rest => do
    let n :=
      if bigEndian then a * 0x1000000 + b * 0x10000 + c * 0x100 + d
      else d * 0x1000000 + c * 0x10000 + b * 0x100 + a
    return (← CodePoint.ofNat? n) :: (← decode32 bigEndian rest)
  | _ => none

/-- The code points of a text. -/
def decode : Encoding → List Nat → Option (List CodePoint)
  | utf8, bytes => Utf8.decode bytes
  | utf16 bigEndian, bytes =>
    (units16 bigEndian bytes).bind fun units => CodePoint.joinPairs (units.map .unit)
  | utf32 bigEndian, bytes => decode32 bigEndian bytes

end Encoding

/-- The code points of a JSON text that comes as bytes. -/
def decodeBytes (bytes : List UInt8) : Option (List CodePoint) :=
  let (encoding, rest) := Encoding.detect (bytes.map UInt8.toNat)
  encoding.decode rest

end RareSats.Json
