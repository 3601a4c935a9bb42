/-
# The named rarity of a sat tells what it opens

Epochs, cycles and adjustments are runs of whole blocks, so what opens one of them is the
first sat of a block, and the height of that block tells which of them it opens: the sat
at the start of an epoch is the one with third zero at a multiple of `halvingInterval`
(`Sat.epochStarts_eq_some_index_iff`). A halving and an adjustment come together at the
start of a cycle and nowhere else (`adjustmentInterval_dvd_iff`), so the minute and the
second of a degree tell the cycles apart from the other epochs. The named rarity, which is
read off the degree, therefore tells which of the six openings a sat is.

Key definition: `Sat.OpensBlock`.
Key theorems: `Sat.opensBlock_iff`, `Sat.epochStarts_eq_some_index_iff`, `Sat.rarity_eq`,
`Sat.rarity_tells_opening`.
-/
import RareSats.Proofs.Degree
import RareSats.Sat.NamedRarity

namespace RareSats

/-- **A halving comes with an adjustment at the start of a cycle only.** -/
theorem adjustmentInterval_dvd_iff {height : Nat} (h : halvingInterval ∣ height) :
    adjustmentInterval ∣ height ↔ epochsPerCycle ∣ height / halvingInterval := by
  calc adjustmentInterval ∣ height ↔ Nat.lcm halvingInterval adjustmentInterval ∣ height := by
        rw [Nat.lcm_dvd_iff]
        exact (and_iff_right h).symm
    _ ↔ halvingInterval * epochsPerCycle ∣ height := by rw [lcm_intervals, Nat.mul_comm]
    _ ↔ epochsPerCycle ∣ height / halvingInterval := (Nat.dvd_div_iff_mul_dvd h).symm

namespace Sat

variable (s : Sat)

/-! ### First sats -/

/-- No sat of its block comes before it. -/
def OpensBlock : Prop :=
  ∀ t : Sat, t.height = s.height → s.index ≤ t.index

/-- The sat of a place with third zero is the one that its block starts with. -/
theorem index_eq_blockStart_iff {h : Nat} :
    s.index = blockStart h ↔ s.height = h ∧ s.third = 0 := by
  constructor
  · intro hindex
    have hheight : h < blockCount := by
      by_contra hge
      have hend := blockStart_mono (Nat.not_lt.mp hge)
      rw [blockStart_blockCount] at hend
      have hlt := s.lt_supply
      omega
    have hepoch : h / halvingInterval < epochCount := Nat.div_lt_of_lt_mul (by
      rw [Nat.mul_comm]
      exact hheight)
    have hplace : s = ofPlace hheight (blockSubsidy_pos hepoch) := index_injective hindex
    rw [hplace]
    exact ⟨height_ofPlace _ _, third_ofPlace _ _⟩
  · rintro ⟨rfl, hthird⟩
    have hplace := s.blockStart_add_third
    omega

/-- **A sat opens its block exactly if no sat of the block is issued before it.** -/
theorem opensBlock_iff : s.OpensBlock ↔ s.third = 0 := by
  constructor
  · intro hopens
    have hlt := Nat.lt_of_le_of_lt s.blockStart_height_le s.lt_supply
    obtain ⟨hheight, hthird⟩ :=
      (index_eq_blockStart_iff ⟨blockStart s.height, hlt⟩ (h := s.height)).mp rfl
    have hfirst := hopens _ hheight
    have hplace := s.blockStart_add_third
    simp only at hfirst
    omega
  · intro hthird t hheight
    have hfirst := (s.index_eq_blockStart_iff (h := s.height)).mpr ⟨rfl, hthird⟩
    rw [hfirst, ← hheight]
    exact t.blockStart_height_le

theorem epochStarts_eq_some_index_iff {e : Nat} :
    epochStarts[e]? = some s.index ↔ s.height = e * halvingInterval ∧ s.third = 0 := by
  rcases Nat.lt_or_ge epochCount e with hlt | hle
  · have hnone : epochStarts[e]? = none := List.getElem?_eq_none (by simp [epochStarts]; omega)
    rw [hnone]
    refine iff_of_false (fun h => by cases h) ?_
    rintro ⟨hheight, -⟩
    have hepoch := s.height_div
    rw [hheight, Nat.mul_div_cancel e halvingInterval_pos] at hepoch
    have := s.epoch_lt_epochCount
    omega
  · rw [epochStarts_getElem? hle, Option.some.injEq, ← blockStart_epoch, eq_comm]
    exact s.index_eq_blockStart_iff

theorem exists_epochStarts_iff {p : Nat → Prop} :
    (∃ e, e ≤ 32 ∧ p e ∧ epochStarts[e]? = some s.index) ↔
      s.third = 0 ∧ halvingInterval ∣ s.height ∧ p s.epoch := by
  have hepoch := s.height_div
  constructor
  · rintro ⟨e, -, he, hstart⟩
    obtain ⟨hheight, hthird⟩ := s.epochStarts_eq_some_index_iff.mp hstart
    rw [hheight, Nat.mul_div_cancel e halvingInterval_pos] at hepoch
    subst hepoch
    exact ⟨hthird, hheight ▸ Nat.dvd_mul_left _ _, he⟩
  · rintro ⟨hthird, hdvd, hp⟩
    refine ⟨s.epoch, s.epoch_le_lastEpoch, hp, s.epochStarts_eq_some_index_iff.mpr ⟨?_, hthird⟩⟩
    rw [← hepoch, Nat.div_mul_cancel hdvd]

theorem index_eq_zero_iff :
    s.index = 0 ↔ s.third = 0 ∧ halvingInterval ∣ s.height ∧ s.epoch = 0 := by
  rw [← s.exists_epochStarts_iff (p := fun e => e = 0)]
  constructor
  · intro hindex
    exact ⟨0, Nat.zero_le _, rfl, by rw [hindex]; rfl⟩
  · rintro ⟨e, -, rfl, hstart⟩
    exact (Option.some.inj hstart).symm

/-- The first sats of the later cycles are those of the later epochs that open a cycle. -/
theorem exists_cycleStart_iff :
    (∃ c, 1 ≤ c ∧ c ≤ 5 ∧ epochStarts[6 * c]? = some s.index) ↔
      s.third = 0 ∧ halvingInterval ∣ s.height ∧ epochsPerCycle ∣ s.epoch ∧ s.epoch ≠ 0 := by
  rw [← s.exists_epochStarts_iff (p := fun e => epochsPerCycle ∣ e ∧ e ≠ 0)]
  constructor
  · rintro ⟨c, hone, hfive, hstart⟩
    exact ⟨6 * c, by omega, ⟨Nat.dvd_mul_right 6 c, by omega⟩, hstart⟩
  · rintro ⟨e, hle, ⟨⟨c, rfl⟩, hne⟩, hstart⟩
    have hsix : epochsPerCycle = 6 := rfl
    rw [hsix] at hle hne hstart
    exact ⟨c, by omega, by omega, hstart⟩

/-! ### Named rarities -/

/-- **A named rarity is read off the events at the height of a block.** -/
theorem rarity_eq : s.rarity =
    if s.third ≠ 0 then .common
    else if halvingInterval ∣ s.height then
      if ¬ epochsPerCycle ∣ s.epoch then .epic
      else if s.epoch = 0 then .mythic else .legendary
    else if adjustmentInterval ∣ s.height then .rare
    else .uncommon := by
  have hminute : s.degree.minute = 0 ↔ halvingInterval ∣ s.height :=
    (Nat.dvd_iff_mod_eq_zero).symm
  have hsecond : s.degree.second = 0 ↔ adjustmentInterval ∣ s.height :=
    (Nat.dvd_iff_mod_eq_zero).symm
  have hthird : s.degree.third = s.third := rfl
  simp only [rarity, hminute, hsecond, hthird]
  by_cases hhalving : halvingInterval ∣ s.height
  · -- the halving of an epoch: the second tells whether a cycle starts, the hour which one
    have hcycle : adjustmentInterval ∣ s.height ↔ epochsPerCycle ∣ s.epoch := by
      rw [adjustmentInterval_dvd_iff hhalving, s.height_div]
    by_cases hdvd : epochsPerCycle ∣ s.epoch
    · have hhour : s.degree.hour = 0 ↔ s.epoch = 0 := by
        rw [s.degree_hour]
        exact ⟨Nat.eq_zero_of_dvd_of_div_eq_zero hdvd, fun h => by simp [cycle, h]⟩
      simp only [hhalving, hcycle, hdvd, hhour, and_self, if_true, not_true_eq_false, if_false]
    · simp only [hhalving, hcycle, hdvd, and_false, if_true, not_false_eq_true, if_false]
  · simp only [hhalving, false_and, if_false]

/-- **The named rarity of a sat tells what the sat opens.** It is mythic exactly if it is the first
sat of all, legendary exactly if it is the first sat of a later cycle, epic exactly if it is the
first sat of another epoch, rare or uncommon exactly if it is the first sat of a block at no halving,
with and without an adjustment, and common exactly if it is not the first sat of its block. -/
theorem rarity_tells_opening :
    (s.rarity = .mythic ↔ s.index = 0) ∧
    (s.rarity = .legendary ↔ ∃ c, 1 ≤ c ∧ c ≤ 5 ∧ epochStarts[6 * c]? = some s.index) ∧
    (s.rarity = .epic ↔ ∃ e, e ≤ 32 ∧ ¬ 6 ∣ e ∧ epochStarts[e]? = some s.index) ∧
    (s.rarity = .rare ↔ s.OpensBlock ∧ 2016 ∣ s.height ∧ ¬ 210000 ∣ s.height) ∧
    (s.rarity = .uncommon ↔ s.OpensBlock ∧ ¬ 2016 ∣ s.height ∧ ¬ 210000 ∣ s.height) ∧
    (s.rarity = .common ↔ ¬ s.OpensBlock) := by
  rw [s.index_eq_zero_iff, s.exists_cycleStart_iff,
    s.exists_epochStarts_iff (p := fun e => ¬ 6 ∣ e), s.opensBlock_iff, s.rarity_eq]
  simp only [halvingInterval, adjustmentInterval, epochsPerCycle]
  -- each branch of the reading makes one of the six openings true and the others false
  by_cases hthird : s.third = 0
  · by_cases hhalving : 210000 ∣ s.height
    · by_cases hcycle : 6 ∣ s.epoch
      · by_cases hfirst : s.epoch = 0
        · simp [hthird, hhalving, hfirst]
        · simp [hthird, hhalving, hcycle, hfirst]
      · have hfirst : s.epoch ≠ 0 := fun h => hcycle (h ▸ Nat.dvd_zero 6)
        simp [hthird, hhalving, hcycle, hfirst]
    · by_cases hadjustment : 2016 ∣ s.height
      · simp [hthird, hhalving, hadjustment]
      · simp [hthird, hhalving, hadjustment]
  · simp [hthird]

end Sat

end RareSats
