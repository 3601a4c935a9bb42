/-
# JSON values

Integers are kept apart from other numbers and have any size. An object keeps the
order of its members.

Key definitions: `Json`, `Json.ofString`, `Json.member?`, `Json.finiteOnly`.
-/
import RareSats.Json.Binary64
import RareSats.OrderedMap
import RareSats.Text.CodePoint

namespace RareSats

/-- A JSON value. -/
inductive Json where
  | null
  | bool (b : Bool)
  | int (n : Int)
  | float (x : Binary64)
  | str (s : Text)
  | arr (items : List Json)
  | obj (members : List (Text × Json))

namespace Json

instance : Inhabited Json := ⟨null⟩

/-- A string as a value. -/
def ofString (s : String) : Json :=
  str (.ofString s)

/-- A natural number as a value. -/
def ofNat (n : Nat) : Json :=
  int n

/-- An object with the given members. -/
def ofMembers (members : List (String × Json)) : Json :=
  obj (members.map fun m => (.ofString m.1, m.2))

/-- The member of an object with a name. -/
def member? (name : String) : Json → Option Json
  | obj members => members.lookup (.ofString name)
  | _ => none

mutual

/-- The value with null for every number that is not finite. -/
def finiteOnly : Json → Json
  | float x => if x.isFinite then float x else null
  | arr items => arr (itemsFinite items)
  | obj members => obj (membersFinite members)
  | j => j

/-- The values with null for every number that is not finite. -/
def itemsFinite : List Json → List Json
  | [] => []
  | j :: rest => j.finiteOnly :: itemsFinite rest

/-- The members with null for every number that is not finite. -/
def membersFinite : List (Text × Json) → List (Text × Json)
  | [] => []
  | (name, j) :: rest => (name, j.finiteOnly) :: membersFinite rest

end

end Json

end RareSats
