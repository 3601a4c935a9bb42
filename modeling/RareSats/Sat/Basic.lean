/-
# Sats and their place in the schedule

A sat is an index into the supply. Its epoch is the number of epochs that end
at or before it, its height counts the blocks before the one that issued it,
and its third is its place among the sats of that block.

Key definitions: `Sat`, `Sat.of`, `Sat.epoch`, `Sat.height`, `Sat.third`,
`Sat.degree`, `Sat.decimalText`.
Key theorems: `Sat.epoch_le_lastEpoch`, `Sat.of_ok_iff`.
-/
import RareSats.Error

namespace RareSats

/-- A sat, by its place in the order of issue. -/
structure Sat where
  index : Nat
  lt_supply : index < supply
deriving DecidableEq

/-- The subsidy of an epoch that is given by any integer. There is none below epoch zero. -/
def blockSubsidyAt (epoch : Int) : Except Error Nat :=
  if epoch < 0 then .error .negativeEpoch else .ok (blockSubsidy epoch.toNat)

/-- Where a sat stands on the four dials of the schedule. -/
structure Degree where
  /-- The cycles before it. -/
  hour : Nat
  /-- The blocks of its epoch before it. -/
  minute : Nat
  /-- The blocks before it since the last adjustment. -/
  second : Nat
  /-- The sats of its block before it. -/
  third : Nat
deriving DecidableEq, Repr

/-- The notation of a degree. -/
def Degree.text (d : Degree) : String :=
  s!"{d.hour}°{d.minute}′{d.second}″{d.third}‴"

namespace Sat

/-- The sat with the given index, which must lie in the supply. -/
def of (n : Int) : Except Error Sat :=
  if h : 0 ≤ n ∧ n.toNat < supply then .ok ⟨n.toNat, h.2⟩
  else .error (.naming .standard [n] (.outsideSupply n))

variable (s : Sat)

/-- The epoch of a sat: the number of epochs that are over when it is issued. -/
def epoch : Nat :=
  (List.range lastEpoch).countP fun e => epochStart (e + 1) ≤ s.index

/-- The sats of its epoch that are issued before it. -/
def epochPosition : Nat :=
  s.index - epochStart s.epoch

/-- The height of the block that issues a sat. -/
def height : Nat :=
  s.epoch * halvingInterval + s.epochPosition / blockSubsidy s.epoch

/-- The sats of its block that are issued before it. -/
def third : Nat :=
  s.epochPosition % blockSubsidy s.epoch

/-- The cycles that are over when a sat is issued. -/
def cycle : Nat :=
  s.epoch / epochsPerCycle

/-- The adjustments of the difficulty before a sat is issued. -/
def period : Nat :=
  s.height / adjustmentInterval

/-- The degree of a sat. -/
def degree : Degree where
  hour := s.height / (epochsPerCycle * halvingInterval)
  minute := s.height % halvingInterval
  second := s.height % adjustmentInterval
  third := s.third

/-- The notation of a sat by its block and its place in the block. -/
def decimalText : String :=
  s!"{s.height}.{s.third}"

theorem epoch_le_lastEpoch : s.epoch ≤ lastEpoch := by
  unfold epoch
  exact Nat.le_trans List.countP_le_length (by simp)

/-- Exactly the indices of the supply have a sat. -/
theorem of_ok_iff {n : Int} {s : Sat} : of n = .ok s ↔ n = s.index := by
  unfold of
  split
  · rename_i h
    simp only [Except.ok.injEq]
    constructor
    · rintro rfl
      exact (Int.toNat_of_nonneg h.1).symm
    · rintro rfl
      rfl
  · rename_i h
    simp only [reduceCtorEq, false_iff]
    rintro rfl
    exact h ⟨Int.natCast_nonneg _, by simpa using s.lt_supply⟩

end Sat

end RareSats
