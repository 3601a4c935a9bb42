/-
# Texts that may hold surrogates

Code points are the characters and the surrogates. An escape in a written text can
name a single surrogate, which no character stands for. So a text is a list of code
points, and it is a string exactly if none of them is a surrogate.

Key definitions: `CodePoint`, `CodePoint.joinPairs`, `Text`, `Text.ofString`,
`Text.string?`, `Text.repaired`.
Key theorems: `Text.string?_ofString`, `Text.ofString_injective`.
-/

namespace RareSats

/-- A character, or the surrogate at an offset from the first one. -/
inductive CodePoint where
  | scalar (c : Char)
  | surrogate (offset : Fin 2048)
deriving DecidableEq, Repr

namespace CodePoint

/-- The first surrogate. -/
def firstSurrogate : Nat := 0xD800

/-- The number of a code point. -/
def value : CodePoint → Nat
  | .scalar c => c.toNat
  | .surrogate offset => firstSurrogate + offset

/-- A unit that opens a pair of surrogates. -/
def isHigh (n : Nat) : Bool :=
  0xD800 ≤ n && n < 0xDC00

/-- A unit that closes a pair of surrogates. -/
def isLow (n : Nat) : Bool :=
  0xDC00 ≤ n && n < 0xE000

/-- The code point of a number below the end of the code space. -/
def ofNat? (n : Nat) : Option CodePoint :=
  if h : n.isValidChar then some (.scalar (Char.ofNatAux n h))
  else if h : n - firstSurrogate < 2048 ∧ firstSurrogate ≤ n then some (.surrogate ⟨_, h.1⟩)
  else none

/-- The number that a pair of surrogates stands for. -/
def ofPair (high low : Nat) : Nat :=
  0x10000 + (high - 0xD800) * 0x400 + (low - 0xDC00)

/-- A code point, or a unit that may be half of a pair of surrogates. -/
inductive Piece where
  | point (p : CodePoint)
  | unit (n : Nat)
deriving DecidableEq, Repr

/-- The unit after a high one, if the two form a pair. -/
def partner? : List Piece → Option Nat
  | .unit v :: _ => if isLow v then some v else none
  | _ => none

/-- The code points of pieces. A unit that has no partner stands for itself. -/
def joinPairs : List Piece → Option (List CodePoint)
  | [] => some []
  | .point p :: rest => do return p :: (← joinPairs rest)
  | .unit u :: rest => do
    let points ← joinPairs rest
    match if isHigh u then partner? rest else none with
    | some v => return (← ofNat? (ofPair u v)) :: points.tail
    | none => return (← ofNat? u) :: points

/-- The character at a code point. -/
def char? : CodePoint → Option Char
  | .scalar c => some c
  | .surrogate _ => none

/-- The code point is a surrogate. -/
def isSurrogate : CodePoint → Bool
  | .scalar _ => false
  | .surrogate _ => true

/-- Every character as itself, and three replacement characters for a surrogate: one for each byte
that it would take. -/
def repaired : CodePoint → List Char
  | .scalar c => [c]
  | .surrogate _ => ['\ufffd', '\ufffd', '\ufffd']

end CodePoint

/-- A text: code points, among which there may be surrogates. -/
structure Text where
  points : List CodePoint
deriving DecidableEq, Repr

namespace Text

/-- The text of a string. -/
def ofString (s : String) : Text :=
  ⟨s.toList.map .scalar⟩

instance : Coe String Text := ⟨ofString⟩

/-- One text after another. -/
def append (a b : Text) : Text :=
  ⟨a.points ++ b.points⟩

instance : Append Text := ⟨append⟩

/-- The string that a text is, unless it holds a surrogate. -/
def string? (t : Text) : Option String :=
  (t.points.mapM CodePoint.char?).map String.ofList

/-- The string in which replacement characters stand for the surrogates. -/
def repaired (t : Text) : String :=
  String.ofList (t.points.flatMap CodePoint.repaired)

/-- The numbers of the code points, by which texts are ordered. -/
def values (t : Text) : List Nat :=
  t.points.map CodePoint.value

theorem mapM_char?_scalar (cs : List Char) :
    (cs.map CodePoint.scalar).mapM CodePoint.char? = some cs := by
  induction cs with
  | nil => rfl
  | cons c cs ih => simp [CodePoint.char?, ih]

/-- A string is found again in its text. -/
theorem string?_ofString (s : String) : (ofString s).string? = some s := by
  simp only [string?, ofString, mapM_char?_scalar, Option.map_some, String.ofList_toList]

/-- Strings with one text are one string. -/
theorem ofString_injective {a b : String} (h : ofString a = ofString b) : a = b := by
  have hsome : some a = some b := by rw [← string?_ofString a, ← string?_ofString b, h]
  exact Option.some.inj hsome

/-- In the text of a string there is nothing to repair. -/
theorem repaired_ofString (s : String) : (ofString s).repaired = s := by
  have hpoints : ∀ cs : List Char, (cs.map CodePoint.scalar).flatMap CodePoint.repaired = cs := by
    intro cs
    induction cs with
    | nil => rfl
    | cons c cs ih => simp [CodePoint.repaired, ih]
  simp only [repaired, ofString, hpoints, String.ofList_toList]

end Text

end RareSats
