/-
# Every place of the schedule has its sat

The place of a sat is the height of its block together with its third, which counts
the sats of the block before it. The blocks below `blockCount` have as many thirds
as their subsidy says, and the sat at a place is found by counting on from the start
of its block (`Sat.ofPlace`). So each place has one sat, and sats follow one another
as their places do, by height first and then by third (`Sat.index_lt_iff_lex`). The
decimal text of a sat is its place with a point between two numbers; as no number
holds a point, the text tells the place (`Sat.decimalText_injective`).

Key definitions: `blockCount`, `Sat.ofPlace`.
Key theorems: `Sat.index_lt_iff_lex`, `Sat.existsUnique_place`,
`Sat.decimalText_injective`, `Sat.numbering_by_places`.
-/
import Mathlib.Data.List.Basic
import RareSats.Proofs.Decimal
import RareSats.Proofs.QueryRange

namespace RareSats

/-- The number of blocks with a subsidy. -/
def blockCount : Nat := epochCount * halvingInterval

theorem blockStart_blockCount : blockStart blockCount = supply :=
  blockStart_epoch epochCount

theorem epochStarts_getElem? {e : Nat} (he : e ≤ epochCount) :
    epochStarts[e]? = some (epochStart e) := by
  rw [epochStarts, List.getElem?_map, List.getElem?_range (Nat.lt_succ_of_le he)]
  rfl

theorem blockSubsidyAt_natCast (e : Nat) : blockSubsidyAt e = .ok (blockSubsidy e) := by
  rw [blockSubsidyAt, if_neg (Int.not_lt.mpr (Int.natCast_nonneg e)), Int.toNat_natCast]

namespace Sat

/-! ### From places to sats and back -/

section

variable {height third : Nat} (hheight : height < blockCount)
  (hthird : third < blockSubsidy (height / halvingInterval))

/-- The sat that block `height` issues after `third` others. -/
def ofPlace : Sat where
  index := blockStart height + third
  lt_supply := by
    have hnext := blockStart_succ height
    have hend : blockStart (height + 1) ≤ blockStart blockCount := blockStart_mono hheight
    rw [blockStart_blockCount] at hend
    omega

theorem height_ofPlace : (ofPlace hheight hthird).height = height := by
  rw [height_eq_iff, blockStart_succ]
  simp only [ofPlace]
  omega

theorem third_ofPlace : (ofPlace hheight hthird).third = third := by
  have hplace := (ofPlace hheight hthird).blockStart_add_third
  rw [height_ofPlace] at hplace
  exact Nat.add_left_cancel hplace

end

theorem index_injective {s t : Sat} (h : s.index = t.index) : s = t := by
  cases s
  cases t
  simp only at h
  subst h
  rfl

theorem eq_of_place {s t : Sat} (hheight : s.height = t.height) (hthird : s.third = t.third) :
    s = t := by
  apply index_injective
  rw [← s.blockStart_add_third, ← t.blockStart_add_third, hheight, hthird]

/-- **Each place has one sat.** -/
theorem existsUnique_place {height third : Nat} (hheight : height < blockCount)
    (hthird : third < blockSubsidy (height / halvingInterval)) :
    ∃! s : Sat, s.height = height ∧ s.third = third := by
  refine ⟨ofPlace hheight hthird, ⟨height_ofPlace _ _, third_ofPlace _ _⟩, fun s hs => ?_⟩
  obtain ⟨rfl, rfl⟩ := hs
  exact eq_of_place (height_ofPlace _ _).symm (third_ofPlace _ _).symm

/-- A sat is found by counting the blocks of its epoch before it. -/
theorem index_eq (s : Sat) : (s.index : Int) = epochStart s.epoch +
    ((s.height : Int) - halvingInterval * s.epoch) * blockSubsidy s.epoch + s.third := by
  -- the blocks of the epoch before the sat are the remainder of its height
  have hmod : (s.height : Int) - halvingInterval * s.epoch = (s.height % halvingInterval : Nat) := by
    have hdiv := Nat.div_add_mod s.height halvingInterval
    rw [s.height_div] at hdiv
    omega
  rw [hmod, ← Int.natCast_mul, ← Int.natCast_add, ← Int.natCast_add]
  conv_lhs => rw [← s.blockStart_add_third, blockStart, s.height_div]

/-! ### The order of places -/

theorem index_lt_of_height_lt {s t : Sat} (h : s.height < t.height) : s.index < t.index := by
  have hbefore := s.height_lt_iff.mp h
  have hstart := t.blockStart_height_le
  omega

theorem index_lt_iff_third_lt {s t : Sat} (h : s.height = t.height) :
    s.index < t.index ↔ s.third < t.third := by
  rw [← s.blockStart_add_third, ← t.blockStart_add_third, h]
  exact Nat.add_lt_add_iff_left

/-- **Sats follow one another as their places do.** -/
theorem index_lt_iff_lex (s t : Sat) : s.index < t.index ↔
    Prod.Lex (· < ·) (· < ·) (s.height, s.third) (t.height, t.third) := by
  rw [Prod.lex_def]
  -- of two heights, the lower one decides; of one height, the thirds do
  rcases Nat.lt_trichotomy s.height t.height with hlt | heq | hgt
  · exact iff_of_true (index_lt_of_height_lt hlt) (Or.inl hlt)
  · rw [index_lt_iff_third_lt heq]
    refine ⟨fun h => Or.inr ⟨heq, h⟩, fun h => ?_⟩
    exact h.elim (fun hlt => absurd heq (Nat.ne_of_lt hlt)) And.right
  · have hback := index_lt_of_height_lt hgt
    refine iff_of_false (Nat.not_lt.mpr (Nat.le_of_lt hback)) ?_
    simp only
    omega

/-! ### Decimal texts -/

theorem toList_decimalText (s : Sat) :
    s.decimalText.toList = digits s.height ++ '.' :: digits s.third := by
  have hpoint : (toString ".").toList = ['.'] := rfl
  simp only [decimalText, String.toList_append, Nat.toString_eq_repr, Nat.toList_repr, hpoint,
    List.append_assoc, List.singleton_append, digits]

/-- **The decimal text of a sat tells the sat.** -/
theorem decimalText_injective {s t : Sat} (h : s.decimalText = t.decimalText) : s = t := by
  have hlist := congrArg String.toList h
  rw [toList_decimalText, toList_decimalText, digits_append_mark_inj (by decide)] at hlist
  exact eq_of_place hlist.1 (digits_injective hlist.2)

/-! ### The two numberings of the sats -/

/-- **Sats are numbered by their places as well as by their indices.** Every index of the supply has
a sat, whose height lies in its epoch, whose third lies below the subsidy of the epoch, and which is
found from the two. Every place below the last height has one sat, sats follow one another as their
places do, and different sats have different decimal texts. -/
theorem numbering_by_places :
    (∀ n : Int, 0 ≤ n → n < supply → ∃ s : Sat, Sat.of n = .ok s ∧
      s.epoch = s.height / halvingInterval ∧ s.epoch ≤ lastEpoch ∧
      ∃ first next subsidy : Nat, epochStarts[s.epoch]? = some first ∧
        epochStarts[s.epoch + 1]? = some next ∧ blockSubsidyAt s.epoch = .ok subsidy ∧
        first ≤ n ∧ n < next ∧ 0 < subsidy ∧ s.third < subsidy ∧
        n = first + ((s.height : Int) - halvingInterval * s.epoch) * subsidy + s.third) ∧
    (∀ height third : Nat, height < epochCount * halvingInterval →
      third < blockSubsidy (height / halvingInterval) →
      ∃! s : Sat, s.height = height ∧ s.third = third) ∧
    (∀ s t : Sat, s.index < t.index ↔
      Prod.Lex (· < ·) (· < ·) (s.height, s.third) (t.height, t.third)) ∧
    ∀ s t : Sat, s ≠ t → s.decimalText ≠ t.decimalText := by
  refine ⟨fun n hn hlt => ?_, fun height third => existsUnique_place, index_lt_iff_lex,
    fun s t hne h => hne (decimalText_injective h)⟩
  obtain ⟨s, rfl⟩ : ∃ s : Sat, (s.index : Int) = n := exists_index_eq hn hlt
  have hepoch := s.epoch_lt_epochCount
  refine ⟨s, of_index s, s.height_div.symm, s.epoch_le_lastEpoch, _, _, _,
    epochStarts_getElem? (Nat.le_of_lt hepoch), epochStarts_getElem? hepoch,
    blockSubsidyAt_natCast _, ?_, ?_, s.blockSubsidy_epoch_pos, s.third_lt, s.index_eq⟩
  · exact Int.ofNat_le.mpr s.epochStart_epoch_le
  · exact Int.ofNat_lt.mpr s.index_lt_epochStart

/-- The last places of the blocks before and after the first halving have a sat each. -/
theorem numbering_at_first_halving :
    (∃! s : Sat, s.height = 209999 ∧ s.third = 4999999999) ∧
    ∃! s : Sat, s.height = 210000 ∧ s.third = 2499999999 :=
  ⟨numbering_by_places.2.1 209999 4999999999 (by decide) (by decide),
    numbering_by_places.2.1 210000 2499999999 (by decide) (by decide)⟩

end Sat

end RareSats
