/-
# UTF-8

A code point takes one to four bytes. The first one tells how many there are, and no
code point may take more than it needs. A surrogate, which strict readers refuse, is
read as what it is. Bytes that are part of no character may be carried in a text by
surrogates of their own; where such bytes stand together and are those of a character
after all, they are the character.

Key definitions: `Utf8.decode`, `Utf8.escapedByte?`, `Text.joinEscapedBytes`.
Key theorem: `Text.joinEscapedBytes_ofString`.
-/
import RareSats.Text.CodePoint

namespace RareSats

namespace Utf8

/-- A byte that continues a character of UTF-8. -/
def isTail (b : Nat) : Bool :=
  0x80 ≤ b && b < 0xC0

/-- The code points of a text in UTF-8. -/
def decode : List Nat → Option (List CodePoint)
  | [] => some []
  | a :: rest =>
    if a < 0x80 then do
      return (← CodePoint.ofNat? a) :: (← decode rest)
    else
      match rest with
      | [] => none
      | b :: rest =>
        if 0xC2 ≤ a && a < 0xE0 && isTail b then do
          return (← CodePoint.ofNat? ((a - 0xC0) * 0x40 + (b - 0x80))) :: (← decode rest)
        else
          match rest with
          | [] => none
          | c :: rest =>
            let three := (a - 0xE0) * 0x1000 + (b - 0x80) * 0x40 + (c - 0x80)
            if 0xE0 ≤ a && a < 0xF0 && isTail b && isTail c && 0x800 ≤ three then do
              return (← CodePoint.ofNat? three) :: (← decode rest)
            else
              match rest with
              | [] => none
              | d :: rest =>
                let four :=
                  (a - 0xF0) * 0x40000 + (b - 0x80) * 0x1000 + (c - 0x80) * 0x40 + (d - 0x80)
                if 0xF0 ≤ a && a < 0xF5 && isTail b && isTail c && isTail d && 0x10000 ≤ four then
                  do
                  return (← CodePoint.ofNat? four) :: (← decode rest)
                else none

/-- The byte that a surrogate carries. -/
def escapedByte? : CodePoint → Option Nat
  | .scalar _ => none
  | .surrogate offset =>
    if 0x480 ≤ offset.val && offset.val < 0x500 then some (offset.val - 0x400) else none

/-- The character of the first `count` carried bytes. -/
def escapedCharacter? (points : List CodePoint) (count : Nat) : Option Char :=
  match ((points.take count).mapM escapedByte?).bind decode with
  | some [.scalar c] => some c
  | _ => none

/-- The first character of carried bytes, and the number of bytes after its first one. -/
def firstEscaped? (points : List CodePoint) : Option (Char × Nat) :=
  [1, 2, 3].findSome? fun more => (escapedCharacter? points (more + 1)).map fun c => (c, more)

/-- The code points with a character for the carried bytes of one. The first `skipped` of them count
as read. -/
def joinEscaped : (skipped : Nat) → List CodePoint → List CodePoint
  | _, [] => []
  | skipped + 1, _ :: rest => joinEscaped skipped rest
  | 0, p :: rest =>
    match firstEscaped? (p :: rest) with
    | some (c, more) => .scalar c :: joinEscaped more rest
    | none => p :: joinEscaped 0 rest

/-- No carried byte stands where a character does. -/
theorem firstEscaped?_scalar (c : Char) (rest : List CodePoint) :
    firstEscaped? (.scalar c :: rest) = none := by
  simp [firstEscaped?, escapedCharacter?, escapedByte?]

/-- Characters are not joined. -/
theorem joinEscaped_scalar (cs : List Char) :
    joinEscaped 0 (cs.map CodePoint.scalar) = cs.map CodePoint.scalar := by
  induction cs with
  | nil => rfl
  | cons c cs ih => rw [List.map_cons, joinEscaped, firstEscaped?_scalar, ih]

end Utf8

/-- The text with a character for the carried bytes of one. -/
def Text.joinEscapedBytes (t : Text) : Text :=
  ⟨Utf8.joinEscaped 0 t.points⟩

/-- A string has nothing to join. -/
theorem Text.joinEscapedBytes_ofString (s : String) :
    (ofString s).joinEscapedBytes = ofString s := by
  rw [joinEscapedBytes, ofString, Utf8.joinEscaped_scalar]

end RareSats
