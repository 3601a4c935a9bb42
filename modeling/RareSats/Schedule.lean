/-
# The issuance schedule

Blocks issue sats, a fixed number each, and every `halvingInterval` blocks the
number is halved, rounding down. An *epoch* is one run of blocks with the same
subsidy. The schedule numbers the sats in the order of their issue, so an epoch
holds the sats from `epochStart e` up to `epochStart (e + 1)`, and the first
epoch without a subsidy, `epochCount`, ends the supply.

Key definitions: `blockSubsidy`, `epochStart`, `supply`.
Key theorems: `epochStart_succ`, `blockSubsidy_eq_zero_of_le`.
-/

namespace RareSats

/-- The sats of one whole coin. -/
def coinValue : Nat := 100000000

/-- The number of blocks after which the subsidy is halved. -/
def halvingInterval : Nat := 210000

/-- The number of blocks between two adjustments of the difficulty. -/
def adjustmentInterval : Nat := 2016

/-- The number of epochs after which a halving and an adjustment coincide again. -/
def epochsPerCycle : Nat := 6

/-- The sats that each block of the first epoch issues: fifty coins. -/
def initialSubsidy : Nat := 50 * coinValue

/-- The sats that each block of epoch `e` issues. -/
def blockSubsidy (e : Nat) : Nat :=
  if 64 ≤ e then 0 else initialSubsidy >>> e

/-- The sats issued before epoch `e`, which is the index of its first sat. -/
def epochStart : Nat → Nat
  | 0 => 0
  | e + 1 => epochStart e + blockSubsidy e * halvingInterval

/-- The number of epochs with a subsidy. -/
def epochCount : Nat := 33

/-- The last epoch with a subsidy. -/
def lastEpoch : Nat := epochCount - 1

/-- The number of sats that are ever issued. -/
def supply : Nat := epochStart epochCount

/-- The first sats of the epochs, ending with the supply. -/
def epochStarts : List Nat :=
  (List.range (epochCount + 1)).map epochStart

theorem epochStart_succ (e : Nat) :
    epochStart (e + 1) = epochStart e + blockSubsidy e * halvingInterval := rfl

/-- No epoch from `epochCount` on has a subsidy. -/
theorem blockSubsidy_eq_zero_of_le {e : Nat} (h : epochCount ≤ e) : blockSubsidy e = 0 := by
  unfold blockSubsidy
  split
  · rfl
  · rw [Nat.shiftRight_eq_div_pow]
    apply Nat.div_eq_of_lt
    calc initialSubsidy < 2 ^ epochCount := by decide
      _ ≤ 2 ^ e := Nat.pow_le_pow_right (by decide) h

/-- Every epoch before `epochCount` has a subsidy. -/
theorem blockSubsidy_pos {e : Nat} (h : e < epochCount) : 0 < blockSubsidy e := by
  have hall : ∀ k, k < epochCount → 0 < blockSubsidy k := by decide
  exact hall e h

theorem epochStart_mono {e f : Nat} (h : e ≤ f) : epochStart e ≤ epochStart f := by
  induction h with
  | refl => exact Nat.le_refl _
  | step _ ih => exact Nat.le_trans ih (Nat.le_add_right _ _)

end RareSats
