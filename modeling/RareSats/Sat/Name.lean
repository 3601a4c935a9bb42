/-
# Names of sats

Names are numerals without a zero: in bijective base 26 the letters `a` to `z`
are the digits 1 to 26. A sat is named by the number of sats from it to the end
of the supply, so that names get shorter as the supply runs out and the last sat
is `a`.

Key definitions: `Letters.ofNat`, `Letters.value`, `Sat.name`.
Key theorem: `Letters.value_ofNat`.
-/
import RareSats.Sat.Basic

namespace RareSats

namespace Letters

/-- The letter of the digit `d + 1`. -/
def letter (d : Nat) : Char :=
  Char.ofNat ('a'.toNat + d)

/-- The numeral of a number, the most significant letter first. -/
def ofNat (x : Nat) : List Char :=
  if x = 0 then [] else ofNat ((x - 1) / 26) ++ [letter ((x - 1) % 26)]
termination_by x
decreasing_by omega

/-- The digit that a letter stands for. -/
def digit (c : Char) : Nat :=
  c.toNat - 'a'.toNat + 1

/-- The number that a numeral stands for. -/
def value (letters : List Char) : Nat :=
  letters.foldl (fun acc c => 26 * acc + digit c) 0

theorem digit_letter {d : Nat} (h : d < 26) : digit (letter d) = d + 1 := by
  have hall : ∀ k, k < 26 → digit (letter k) = k + 1 := by decide
  exact hall d h

theorem value_append_singleton (l : List Char) (c : Char) :
    value (l ++ [c]) = 26 * value l + digit c := by
  simp [value]

/-- A numeral stands for the number that it is the numeral of. -/
theorem value_ofNat (x : Nat) : value (ofNat x) = x := by
  induction x using Nat.strongRecOn with
  | _ x ih =>
    unfold ofNat
    split
    · rename_i h
      simp [value, h]
    · rename_i h
      rw [value_append_singleton, ih _ (by omega), digit_letter (by omega)]
      omega

end Letters

/-- The name of a sat: the numeral of the number of sats that are left when it is issued. -/
def Sat.name (s : Sat) : String :=
  String.ofList (Letters.ofNat (supply - s.index))

end RareSats
