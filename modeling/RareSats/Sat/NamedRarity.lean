/-
# Named rarities

A sat that is not the first of its block is common. The first sat of a block is
rarer the more events the block opens: every block, every adjustment of the
difficulty, every halving, every cycle, and the supply itself.

Key definitions: `NamedRarity`, `NamedRarity.rank`, `Sat.rarity`,
`NamedRarity.sorted`.
Key theorem: `NamedRarity.rank_injective`.
-/
import RareSats.Sat.Basic

namespace RareSats

/-- The named rarities, from the most frequent on. -/
inductive NamedRarity where
  | common
  | uncommon
  | rare
  | epic
  | legendary
  | mythic
deriving DecidableEq, Repr

namespace NamedRarity

/-- All named rarities in ascending order. -/
def all : List NamedRarity := [common, uncommon, rare, epic, legendary, mythic]

/-- The place of a named rarity in the order. -/
def rank : NamedRarity → Nat
  | common => 0
  | uncommon => 1
  | rare => 2
  | epic => 3
  | legendary => 4
  | mythic => 5

/-- The word for a named rarity. -/
def token : NamedRarity → String
  | common => "common"
  | uncommon => "uncommon"
  | rare => "rare"
  | epic => "epic"
  | legendary => "legendary"
  | mythic => "mythic"

/-- The name of the constant for a named rarity. -/
def constantName : NamedRarity → String
  | common => "COMMON"
  | uncommon => "UNCOMMON"
  | rare => "RARE"
  | epic => "EPIC"
  | legendary => "LEGENDARY"
  | mythic => "MYTHIC"

/-- The named rarity of a word, which must name one. -/
def ofToken (word : Text) : Except Error NamedRarity :=
  match all.find? fun r => Text.ofString r.token = word with
  | some r => .ok r
  | none => .error (.unknownNamedRarity word)

instance : LT NamedRarity := ⟨fun a b => a.rank < b.rank⟩

instance : LE NamedRarity := ⟨fun a b => a.rank ≤ b.rank⟩

instance (a b : NamedRarity) : Decidable (a < b) := inferInstanceAs (Decidable (a.rank < b.rank))

instance (a b : NamedRarity) : Decidable (a ≤ b) := inferInstanceAs (Decidable (a.rank ≤ b.rank))

theorem rank_injective {a b : NamedRarity} (h : a.rank = b.rank) : a = b := by
  cases a <;> cases b <;> first | rfl | cases h

/-- How the word of a named rarity stands to any other text: texts are ordered by code points. -/
def compareText (r : NamedRarity) (text : Text) : Ordering :=
  compareOfLessAndEq (Text.ofString r.token).values text.values

/-- Named rarities in ascending order. -/
def sorted (rs : List NamedRarity) : List NamedRarity :=
  rs.mergeSort fun a b => a ≤ b

/-- The least and the greatest of some named rarities, of which there must be one. -/
def extremes (rs : List NamedRarity) : Except Error (NamedRarity × NamedRarity) :=
  match (sorted rs).head?, (sorted rs).getLast? with
  | some least, some greatest => .ok (least, greatest)
  | _, _ => .error .emptyMaximum

end NamedRarity

/-- The named rarity of a sat, read off its degree. -/
def Sat.rarity (s : Sat) : NamedRarity :=
  let d := s.degree
  if d.third ≠ 0 then .common
  else if d.minute = 0 ∧ d.second = 0 then
    if d.hour = 0 then .mythic else .legendary
  else if d.minute = 0 then .epic
  else if d.second = 0 then .rare
  else .uncommon

end RareSats
