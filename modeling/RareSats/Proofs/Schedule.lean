/-
# Blocks in the schedule

The starts of the epochs are those that a loop finds which goes on as long as there is a
subsidy (`listsStarts_iff`), and the epoch of a sat is found among them by bisection
(`Sat.isInsertionPoint_iff`).

The block at a height issues the sats from `blockStart h` up to
`blockStart (h + 1)`. A sat's height is found by way of its epoch, with one
subsidy per epoch; still, the heights are those of one increasing list of block
starts over all epochs: a sat lies below a height exactly if its index lies before
the block at that height (`Sat.height_lt_iff`). So heights grow with the sats, and
the third of a sat counts from the start of its own block.

Key definitions: `blockStart`, `ListsStarts`, `IsInsertionPoint`.
Key theorems: `listsStarts_iff`, `Sat.isInsertionPoint_iff`, `Sat.epoch_eq_min`,
`Sat.blockStart_add_third`, `Sat.height_lt_iff`, `Sat.height_mono`, `Sat.third_pos_of_lt`,
`Sat.height_lt_iff_div`.
-/
import RareSats.Sat.Basic

namespace RareSats

/-! ### Block starts -/

/-- The sats issued before the block at height `h`, which is the index of its first sat. -/
def blockStart (h : Nat) : Nat :=
  epochStart (h / halvingInterval) + h % halvingInterval * blockSubsidy (h / halvingInterval)

theorem halvingInterval_pos : 0 < halvingInterval := by decide

theorem blockStart_succ (h : Nat) :
    blockStart (h + 1) = blockStart h + blockSubsidy (h / halvingInterval) := by
  have hmod := Nat.mod_lt h halvingInterval_pos
  have hdiv := Nat.div_add_mod h halvingInterval
  by_cases hlast : h % halvingInterval + 1 = halvingInterval
  · have hnext : h + 1 = halvingInterval * (h / halvingInterval + 1) := by
      rw [Nat.mul_add, Nat.mul_one]; omega
    have hquot : (h + 1) / halvingInterval = h / halvingInterval + 1 := by
      rw [hnext, Nat.mul_div_cancel_left _ halvingInterval_pos]
    have hrem : (h + 1) % halvingInterval = 0 := by rw [hnext, Nat.mul_mod_right]
    have hsize : blockSubsidy (h / halvingInterval) * halvingInterval =
        h % halvingInterval * blockSubsidy (h / halvingInterval) +
          blockSubsidy (h / halvingInterval) := by
      rw [← Nat.succ_mul, Nat.succ_eq_add_one, hlast, Nat.mul_comm]
    unfold blockStart
    rw [hquot, hrem, epochStart_succ, hsize, Nat.zero_mul]
    omega
  · have hlt : h % halvingInterval + 1 < halvingInterval := by omega
    have hnext : h + 1 = h % halvingInterval + 1 + halvingInterval * (h / halvingInterval) := by
      omega
    have hquot : (h + 1) / halvingInterval = h / halvingInterval := by
      rw [hnext, Nat.add_mul_div_left _ _ halvingInterval_pos, Nat.div_eq_of_lt hlt, Nat.zero_add]
    have hrem : (h + 1) % halvingInterval = h % halvingInterval + 1 := by
      rw [hnext, Nat.add_mul_mod_self_left, Nat.mod_eq_of_lt hlt]
    unfold blockStart
    rw [hquot, hrem, Nat.succ_mul]
    omega

theorem blockStart_mono {h k : Nat} (hk : h ≤ k) : blockStart h ≤ blockStart k := by
  induction hk with
  | refl => exact Nat.le_refl _
  | step _ ih => exact Nat.le_trans ih (by rw [blockStart_succ]; exact Nat.le_add_right _ _)

/-- In the first epoch all blocks are of one size. -/
theorem blockStart_of_le {h : Nat} (hh : h ≤ halvingInterval) :
    blockStart h = h * initialSubsidy := by
  induction h with
  | zero => rfl
  | succ h ih =>
    have hzero : h / halvingInterval = 0 := Nat.div_eq_of_lt hh
    rw [blockStart_succ, ih (by omega), hzero, Nat.succ_mul]
    rfl

theorem blockStart_epoch (e : Nat) : blockStart (e * halvingInterval) = epochStart e := by
  have hdiv : e * halvingInterval / halvingInterval = e := Nat.mul_div_cancel e halvingInterval_pos
  have hmod : e * halvingInterval % halvingInterval = 0 := Nat.mul_mod_left e halvingInterval
  rw [blockStart, hdiv, hmod, Nat.zero_mul, Nat.add_zero]

/-! ### The starts of the epochs -/

/-- A loop that starts at an epoch and its first sat, goes on to the next epoch as long as there is a
subsidy, and lists the first sats of the epochs that it comes to. -/
inductive ListsStarts : (epoch start : Nat) → List Nat → Prop
  | stop {epoch start : Nat} : ¬ 0 < blockSubsidy epoch → ListsStarts epoch start []
  | step {epoch start : Nat} {found : List Nat} : 0 < blockSubsidy epoch →
      ListsStarts (epoch + 1) (start + blockSubsidy epoch * halvingInterval) found →
      ListsStarts epoch start ((start + blockSubsidy epoch * halvingInterval) :: found)

theorem ListsStarts.unique {epoch start : Nat} {found found' : List Nat}
    (h : ListsStarts epoch start found) (h' : ListsStarts epoch start found') : found = found' := by
  induction h generalizing found' with
  | stop hout =>
    cases h' with
    | stop _ => rfl
    | step hin _ => exact absurd hin hout
  | step hin _ ih =>
    cases h' with
    | stop hout => exact absurd hin hout
    | step _ hrest => rw [ih hrest]

theorem listsStarts_of_add {epoch left : Nat} (h : epoch + left = epochCount) :
    ListsStarts epoch (epochStart epoch) ((List.range' (epoch + 1) left).map epochStart) := by
  induction left generalizing epoch with
  | zero =>
    have hnone : blockSubsidy epoch = 0 := blockSubsidy_eq_zero_of_le (Nat.le_of_eq h.symm)
    exact .stop (by rw [hnone]; exact Nat.lt_irrefl 0)
  | succ left ih =>
    have hsubsidy : 0 < blockSubsidy epoch := blockSubsidy_pos (by omega)
    rw [List.range'_succ, List.map_cons]
    exact .step hsubsidy (ih (by omega))

/-- **The starts of the epochs are what the loop lists** behind the first one. -/
theorem listsStarts_iff {found : List Nat} : ListsStarts 0 0 found ↔ 0 :: found = epochStarts := by
  have hlists : ListsStarts 0 0 ((List.range' 1 epochCount).map epochStart) :=
    listsStarts_of_add (Nat.zero_add _)
  have hstarts : epochStarts = 0 :: (List.range' 1 epochCount).map epochStart := by
    rw [epochStarts, List.range_eq_range', List.range'_succ, List.map_cons]
    rfl
  rw [hstarts, List.cons.injEq, and_iff_right rfl]
  refine ⟨fun h => h.unique hlists, fun h => ?_⟩
  rw [h]
  exact hlists

/-! ### The epoch of a sat -/

/-- The place in an ascending list where a number belongs, behind all that are not greater. -/
structure IsInsertionPoint (starts : List Nat) (n i : Nat) : Prop where
  le_length : i ≤ starts.length
  le_of_lt : ∀ (e : Nat), e < i → ∀ h : e < starts.length, starts[e] ≤ n
  lt_of_le : ∀ (e : Nat), i ≤ e → ∀ h : e < starts.length, n < starts[e]

/-- If a predicate never holds after a number of which it fails, then it holds exactly of the first
numbers, as many as it is counted for. -/
theorem countP_range_of_antitone {p : Nat → Bool} (hp : ∀ e f, e ≤ f → p f = true → p e = true)
    (n : Nat) : (List.range n).countP p ≤ n ∧
      ∀ e, e < n → (p e = true ↔ e < (List.range n).countP p) := by
  induction n with
  | zero => exact ⟨Nat.le_refl _, fun e he => absurd he (Nat.not_lt_zero e)⟩
  | succ n ih =>
    obtain ⟨hle, hiff⟩ := ih
    by_cases hn : p n = true
    · have hall : ∀ e, e < n + 1 → p e = true := fun e he => hp e n (Nat.lt_succ_iff.mp he) hn
      have hcount : (List.range (n + 1)).countP p = n + 1 := by
        rw [List.countP_eq_length.mpr fun e he => hall e (List.mem_range.mp he), List.length_range]
      rw [hcount]
      exact ⟨Nat.le_refl _, fun e he => iff_of_true (hall e he) he⟩
    · have hcount : (List.range (n + 1)).countP p = (List.range n).countP p := by
        rw [List.range_succ, List.countP_append, List.countP_singleton, if_neg hn, Nat.add_zero]
      rw [hcount]
      refine ⟨Nat.le_succ_of_le hle, fun e he => ?_⟩
      rcases Nat.lt_succ_iff_lt_or_eq.mp he with hlt | rfl
      · exact hiff e hlt
      · exact iff_of_false hn (Nat.not_lt.mpr hle)

namespace Sat

variable (s : Sat)

/-- The epochs before that of a sat are those that end at or before it. -/
theorem epochStart_succ_le_iff {e : Nat} (he : e < lastEpoch) :
    epochStart (e + 1) ≤ s.index ↔ e < s.epoch := by
  have hanti : ∀ a b, a ≤ b → decide (epochStart (b + 1) ≤ s.index) = true →
      decide (epochStart (a + 1) ≤ s.index) = true := by
    intro a b hab hb
    have hmono := epochStart_mono (Nat.succ_le_succ hab)
    exact decide_eq_true (Nat.le_trans hmono (of_decide_eq_true hb))
  have hcount := (countP_range_of_antitone hanti lastEpoch).2 e he
  rwa [decide_eq_true_iff] at hcount

theorem epochStart_epoch_le : epochStart s.epoch ≤ s.index := by
  cases he : s.epoch with
  | zero => exact Nat.zero_le _
  | succ e =>
    have hlt : e < lastEpoch := by have := s.epoch_le_lastEpoch; omega
    exact (s.epochStart_succ_le_iff hlt).mpr (by omega)

theorem index_lt_epochStart : s.index < epochStart (s.epoch + 1) := by
  rcases Nat.lt_or_ge s.epoch lastEpoch with hlt | hge
  · rw [← Nat.not_le, s.epochStart_succ_le_iff hlt]
    exact Nat.lt_irrefl _
  · have hlast : s.epoch = lastEpoch := Nat.le_antisymm s.epoch_le_lastEpoch hge
    rw [hlast]
    exact s.lt_supply

theorem epoch_lt_epochCount : s.epoch < epochCount :=
  Nat.lt_of_le_of_lt s.epoch_le_lastEpoch (by decide)

theorem blockSubsidy_epoch_pos : 0 < blockSubsidy s.epoch :=
  blockSubsidy_pos s.epoch_lt_epochCount

/-- An epoch has begun when a sat is issued exactly if it is not after that of the sat. -/
theorem epochStart_le_iff {e : Nat} : epochStart e ≤ s.index ↔ e ≤ s.epoch := by
  rcases Nat.lt_or_ge s.epoch e with hlt | hle
  · have hstart := Nat.lt_of_lt_of_le s.index_lt_epochStart (epochStart_mono hlt)
    exact iff_of_false (Nat.not_le.mpr hstart) (Nat.not_le.mpr hlt)
  · have hstart := Nat.le_trans (epochStart_mono hle) s.epochStart_epoch_le
    exact iff_of_true hstart hle

/-- **The epoch of a sat is found by bisection.** The one place where the sat belongs among the
starts of the epochs is behind that of its own epoch. -/
theorem isInsertionPoint_iff {i : Nat} :
    IsInsertionPoint epochStarts s.index i ↔ i = s.epoch + 1 := by
  have hepoch := s.epoch_lt_epochCount
  have hlength : epochStarts.length = epochCount + 1 := by simp [epochStarts]
  have hget : ∀ (e : Nat) (he : e < epochStarts.length), epochStarts[e] = epochStart e := by
    simp [epochStarts]
  constructor
  · intro h
    rcases Nat.lt_trichotomy i (s.epoch + 1) with hlt | heq | hgt
    · have hafter := h.lt_of_le s.epoch (by omega) (by omega)
      rw [hget] at hafter
      exact absurd s.epochStart_epoch_le (Nat.not_le.mpr hafter)
    · exact heq
    · have hlimit := h.le_length
      have hbefore := h.le_of_lt (s.epoch + 1) hgt (by omega)
      rw [hget] at hbefore
      exact absurd hbefore (Nat.not_le.mpr s.index_lt_epochStart)
  · rintro rfl
    refine ⟨by omega, fun e he _ => ?_, fun e he hlt => ?_⟩
    · rw [hget, epochStart_le_iff]
      omega
    · rw [hget, ← Nat.not_le, epochStart_le_iff]
      omega

theorem epoch_eq_min {i : Nat} (h : IsInsertionPoint epochStarts s.index i) :
    s.epoch = min (i - 1) lastEpoch := by
  have hlast := s.epoch_le_lastEpoch
  rw [s.isInsertionPoint_iff.mp h]
  omega

/-! ### The height of a sat -/

/-- The blocks of its epoch before a sat are fewer than those of an epoch. -/
theorem epochPosition_div_lt : s.epochPosition / blockSubsidy s.epoch < halvingInterval := by
  rw [Nat.div_lt_iff_lt_mul s.blockSubsidy_epoch_pos, Nat.mul_comm]
  have hlt := s.index_lt_epochStart
  rw [epochStart_succ] at hlt
  unfold epochPosition
  have hle := s.epochStart_epoch_le
  omega

theorem height_div : s.height / halvingInterval = s.epoch := by
  unfold height
  rw [Nat.mul_comm, Nat.mul_add_div halvingInterval_pos, Nat.div_eq_of_lt s.epochPosition_div_lt,
    Nat.add_zero]

theorem height_mod :
    s.height % halvingInterval = s.epochPosition / blockSubsidy s.epoch := by
  unfold height
  rw [Nat.mul_comm, Nat.mul_add_mod, Nat.mod_eq_of_lt s.epochPosition_div_lt]

/-- **A sat is the sat of its block that its third says.** -/
theorem blockStart_add_third : blockStart s.height + s.third = s.index := by
  unfold blockStart third
  rw [s.height_div, s.height_mod, Nat.add_assoc, Nat.div_add_mod', epochPosition]
  exact Nat.add_sub_cancel' s.epochStart_epoch_le

theorem third_lt : s.third < blockSubsidy s.epoch :=
  Nat.mod_lt _ s.blockSubsidy_epoch_pos

theorem blockStart_height_le : blockStart s.height ≤ s.index := by
  have := s.blockStart_add_third
  omega

theorem index_lt_blockStart : s.index < blockStart (s.height + 1) := by
  have hplace := s.blockStart_add_third
  have hthird := s.third_lt
  rw [blockStart_succ, s.height_div]
  omega

/-- **Heights are those of one list of blocks.** A sat lies below a height exactly if it is issued
before the block at that height. -/
theorem height_lt_iff {h : Nat} : s.height < h ↔ s.index < blockStart h := by
  refine ⟨fun hlt => ?_, fun hlt => ?_⟩
  · exact Nat.lt_of_lt_of_le s.index_lt_blockStart (blockStart_mono hlt)
  · apply Nat.lt_of_not_le
    intro hle
    have := blockStart_mono hle
    have := s.blockStart_height_le
    omega

theorem height_eq_iff {h : Nat} :
    s.height = h ↔ blockStart h ≤ s.index ∧ s.index < blockStart (h + 1) := by
  have hbefore := s.height_lt_iff (h := h)
  have hupto := s.height_lt_iff (h := h + 1)
  omega

variable {s}

theorem height_mono {t : Sat} (h : s.index ≤ t.index) : s.height ≤ t.height := by
  have hlt := Nat.lt_of_le_of_lt h t.index_lt_blockStart
  exact Nat.lt_succ_iff.mp (s.height_lt_iff.mpr hlt)

/-- A sat that follows another one of its block is not the first of the block. -/
theorem third_pos_of_lt {t : Sat} (hlt : s.index < t.index) (hheight : s.height = t.height) :
    0 < t.third := by
  have hs := s.blockStart_height_le
  have ht := t.blockStart_add_third
  rw [hheight] at hs
  omega

theorem height_lt_iff_div {h : Nat} (hh : h ≤ halvingInterval) :
    s.height < h ↔ s.index / initialSubsidy < h := by
  rw [s.height_lt_iff, blockStart_of_le hh, Nat.div_lt_iff_lt_mul (by decide)]

theorem height_eq_iff_div {h : Nat} (hh : h < halvingInterval) :
    s.height = h ↔ s.index / initialSubsidy = h := by
  have hbefore := height_lt_iff_div (s := s) (Nat.le_of_lt hh)
  have hupto := height_lt_iff_div (s := s) (Nat.succ_le_of_lt hh)
  omega

end Sat

end RareSats
