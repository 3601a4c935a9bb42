/-
# What can be sent

A value is sent if it has not too many levels and if the names in it have an
encoding. A value that is sent as bytes must besides hold no surrogate at all.

Key definitions: `Json.levelLimit`, `Json.fault?`, `Json.isUnicode`,
`Json.hasEncoding`.
-/
import RareSats.Error
import RareSats.Json.Basic

namespace RareSats.Json

/-- The number of levels that a value may have. A value without a part has one level. -/
def levelLimit : Nat := 255

mutual

/-- The first reason, if there is one, why a value with `room` levels cannot be sent. -/
def fault? : (room : Nat) → Json → Option Error
  | 0, _ => some .unsendableNesting
  | room + 1, arr items => itemsFault? room items
  | room + 1, obj members => membersFault? room members
  | _ + 1, _ => none

/-- The first reason why one of the values cannot be sent. -/
def itemsFault? : (room : Nat) → List Json → Option Error
  | _, [] => none
  | room, j :: rest => (j.fault? room).or (itemsFault? room rest)

/-- The first reason why one of the members cannot be sent. -/
def membersFault? : (room : Nat) → List (Text × Json) → Option Error
  | _, [] => none
  | room, (name, j) :: rest =>
    (name.encodingFault? fun _ => false).or ((j.fault? room).or (membersFault? room rest))

end

mutual

/-- No text in the value holds a surrogate. -/
def isUnicode : Json → Bool
  | str t => t.string?.isSome
  | arr items => itemsUnicode items
  | obj members => membersUnicode members
  | _ => true

/-- No text in the values holds a surrogate. -/
def itemsUnicode : List Json → Bool
  | [] => true
  | j :: rest => j.isUnicode && itemsUnicode rest

/-- No text in the members or their names holds a surrogate. -/
def membersUnicode : List (Text × Json) → Bool
  | [] => true
  | (name, j) :: rest => name.string?.isSome && j.isUnicode && membersUnicode rest

end

/-- The value can be sent as bytes. -/
def hasEncoding (j : Json) : Bool :=
  j.isUnicode && (j.fault? levelLimit).isNone

end RareSats.Json
