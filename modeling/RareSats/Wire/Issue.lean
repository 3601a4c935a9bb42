/-
# What is wrong with received data

Received data is checked as a whole, and all that is wrong is listed: each issue
has a cause and the path to the place that is at fault. Checks are combined so
that the issues come in the order of the places.

Key definitions: `Cause`, `Issue`, `Checked`, `Checked.both`, `Checked.under`,
`checkItems`, `requiredField`, `optionalField`.
Key theorem: `Checked.both_ok_iff`.
-/
import RareSats.Json.Basic
import RareSats.Kind

namespace RareSats

/-- What can be wrong with a value. -/
inductive Cause where
  | missing
  | notObject (model : String)
  | notString
  | notList
  | notTuple
  | notDictionary
  | notInteger
  | notBoolean
  | integerText
  | integerTextLength
  | fraction
  | notFinite
  | booleanText
  | negative
  | emptyList
  | longTuple (length : Nat)
  | notKind
  | notVersion
  | surrogate
deriving DecidableEq, Repr

namespace Cause

/-- The code of a cause. -/
def code : Cause → String
  | missing => "missing"
  | notObject _ => "model_type"
  | notString => "string_type"
  | notList => "list_type"
  | notTuple => "tuple_type"
  | notDictionary => "dict_type"
  | notInteger => "int_type"
  | notBoolean => "bool_type"
  | integerText => "int_parsing"
  | integerTextLength => "int_parsing_size"
  | fraction => "int_from_float"
  | notFinite => "finite_number"
  | booleanText => "bool_parsing"
  | negative => "greater_than_equal"
  | emptyList => "too_short"
  | longTuple _ => "too_long"
  | notKind => "enum"
  | notVersion => "literal_error"
  | surrogate => "string_unicode"

/-- Words in single quotes, the last one after "or". -/
def alternatives : List String → String
  | [] => ""
  | [w] => "'" ++ w ++ "'"
  | [v, w] => "'" ++ v ++ "' or '" ++ w ++ "'"
  | w :: rest => "'" ++ w ++ "', " ++ alternatives rest

/-- The wording of a cause. -/
def message : Cause → String
  | missing => "Field required"
  | notObject model => "Input should be a valid dictionary or instance of " ++ model
  | notString => "Input should be a valid string"
  | notList => "Input should be a valid list"
  | notTuple => "Input should be a valid tuple"
  | notDictionary => "Input should be a valid dictionary"
  | notInteger => "Input should be a valid integer"
  | notBoolean => "Input should be a valid boolean"
  | integerText => "Input should be a valid integer, unable to parse string as an integer"
  | integerTextLength => "Unable to parse input string as an integer, exceeded maximum size"
  | fraction => "Input should be a valid integer, got a number with a fractional part"
  | notFinite => "Input should be a finite number"
  | booleanText => "Input should be a valid boolean, unable to interpret input"
  | negative => "Input should be greater than or equal to 0"
  | emptyList => "List should have at least 1 item after validation, not 0"
  | longTuple length => s!"Tuple should have at most 2 items after validation, not {length}"
  | notKind => "Input should be " ++ alternatives (RarityKind.all.map RarityKind.token)
  | notVersion => "Input should be '2.0'"
  | surrogate => "Input should be a valid string, unable to parse raw data as a unicode string"

end Cause

/-- A step on the way to a place in data. -/
inductive Place where
  | key (name : String)
  | index (i : Nat)
deriving DecidableEq, Repr

/-- The entry with a key, which is shown repaired. -/
def Place.entry (key : Text) : Place :=
  .key key.repaired

/-- A cause, and the path to the place that it is about. -/
structure Issue where
  cause : Cause
  path : List Place
deriving DecidableEq, Repr

/-- The outcome of a check: a value, or all that is wrong. -/
abbrev Checked (α : Type) := Except (List Issue) α

namespace Checked

variable {α β : Type}

/-- A check that found one cause, right here. -/
def fail (cause : Cause) : Checked α :=
  .error [⟨cause, []⟩]

/-- A check of the member at a place. -/
def under (place : Place) : Checked α → Checked α
  | .ok a => .ok a
  | .error issues => .error (issues.map fun i => ⟨i.cause, place :: i.path⟩)

/-- Two checks, both of which are made. -/
def both : Checked α → Checked β → Checked (α × β)
  | .ok a, .ok b => .ok (a, b)
  | .ok _, .error e => .error e
  | .error d, .ok _ => .error d
  | .error d, .error e => .error (d ++ e)

/-- Two checks give values exactly if each of them gives its value. -/
theorem both_ok_iff {x : Checked α} {y : Checked β} {a : α} {b : β} :
    both x y = .ok (a, b) ↔ x = .ok a ∧ y = .ok b := by
  cases x <;> cases y <;> simp [both]

end Checked

variable {α : Type}

/-- The items of a list, checked one after the other from the place `i` on. -/
def checkItems (check : Json → Checked α) (i : Nat) : List Json → Checked (List α)
  | [] => .ok []
  | j :: rest =>
    ((check j).under (.index i)).both (checkItems check (i + 1) rest) |>.map fun (a, l) => a :: l

/-- A list, checked item by item. -/
def checkList (check : Json → Checked α) : Json → Checked (List α)
  | .arr items => checkItems check 0 items
  | _ => .fail .notList

/-- The members of the object that holds a model. -/
def checkObject (model : String) : Json → Checked (List (Text × Json))
  | .obj members => .ok members
  | _ => .fail (.notObject model)

/-- A member that must be there. -/
def requiredField (members : List (Text × Json)) (name : String) (check : Json → Checked α) :
    Checked α :=
  Checked.under (.key name) <|
    match members.lookup (.ofString name) with
    | some j => check j
    | none => .fail .missing

/-- A member that may be missing and then has a value of its own. -/
def optionalField (members : List (Text × Json)) (name : String) (otherwise : α)
    (check : Json → Checked α) : Checked α :=
  match members.lookup (.ofString name) with
  | some j => (check j).under (.key name)
  | none => .ok otherwise

end RareSats
