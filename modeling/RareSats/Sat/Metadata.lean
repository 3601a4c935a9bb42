/-
# What is told of a sat

The values that the schedule gives to a sat, side by side.

Key definitions: `Metadata`, `Sat.metadata`, `metadataAt`.
-/
import RareSats.Sat.Name
import RareSats.Sat.NamedRarity

namespace RareSats

/-- What is told of a sat. -/
structure Metadata where
  decimal : String
  degree : String
  name : String
  height : Nat
  cycle : Nat
  epoch : Nat
  period : Nat
  offset : Nat
  rarity : NamedRarity
deriving DecidableEq, Repr

/-- What is told of the sat `s`. -/
def Sat.metadata (s : Sat) : Metadata where
  decimal := s.decimalText
  degree := s.degree.text
  name := s.name
  height := s.height
  cycle := s.cycle
  epoch := s.epoch
  period := s.period
  offset := s.third
  rarity := s.rarity

/-- What is told of the sat with an index, which must lie in the supply. -/
def metadataAt (n : Int) : Except Error Metadata :=
  (Sat.of n).map Sat.metadata

end RareSats
