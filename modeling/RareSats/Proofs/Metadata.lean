/-
# What is told of a sat agrees

The epoch of a sat is counted on the starts of the epochs, and the cycle is read off it,
while the dials of the degree and the period are quotients and remainders of the height.
Both ways lead to the same place, since the blocks of its epoch before a sat are fewer
than those of an epoch (`Sat.epochPosition_div_lt`): the epoch is the quotient of the
height by the blocks of an epoch, the hour is the cycle, and the epoch with the minute,
like the period with the second, gives the height back. So the degree can be told from
the numbers in the metadata (`Sat.degree_eq`), and the metadata does tell it so.

Key theorems: `Sat.degree_eq`, `metadataAt_index`, `Sat.metadata_agrees`.
-/
import RareSats.Proofs.Degree
import RareSats.Proofs.NamedSats
import RareSats.Sat.Metadata

namespace RareSats

theorem metadataAt_index (s : Sat) : metadataAt s.index = .ok s.metadata := by
  rw [metadataAt, Sat.of_index]
  rfl

namespace Sat

variable (s : Sat)

/-- The dials of a degree show the cycle, and the blocks that the epoch and the period leave of the
height. -/
theorem degree_eq : s.degree =
    ⟨s.cycle, s.height - halvingInterval * s.epoch, s.height - adjustmentInterval * s.period,
      s.third⟩ := by
  have hminute : s.degree.minute = s.height - halvingInterval * s.epoch :=
    Nat.eq_sub_of_add_eq' s.height_eq_epoch_minute.symm
  have hsecond : s.degree.second = s.height - adjustmentInterval * s.period :=
    Nat.eq_sub_of_add_eq' s.height_eq_period_second.symm
  rw [← hminute, ← hsecond, ← s.degree_hour]
  rfl

/-- **The values told of a sat agree**, though they are found in different ways: the epoch and the
cycle by counting epochs, the dials of the degree and the period by dividing the height. The metadata
of the sat carries exactly these values, its texts tell the same place as its numbers, and its rarity
is above common exactly if its offset is zero. -/
theorem metadata_agrees :
    s.epoch = s.height / 210000 ∧
    s.cycle = s.degree.hour ∧ s.degree.hour = s.height / 1260000 ∧
    s.height = 210000 * s.epoch + s.degree.minute ∧
    s.height = 2016 * s.period + s.degree.second ∧
    s.degree.third = s.third ∧
    ∃ m : Metadata, metadataAt s.index = .ok m ∧
      m = { decimal := s.decimalText, degree := s.degree.text, name := s.name,
            height := s.height, cycle := s.cycle, epoch := s.epoch, period := s.period,
            offset := s.third, rarity := s.rarity } ∧
      m.decimal = s!"{m.height}.{m.offset}" ∧
      m.degree = Degree.text
        ⟨m.cycle, m.height - 210000 * m.epoch, m.height - 2016 * m.period, m.offset⟩ ∧
      (.common < m.rarity ↔ m.offset = 0) := by
  have htold : s.metadata.degree = Degree.text ⟨s.cycle, s.height - halvingInterval * s.epoch,
      s.height - adjustmentInterval * s.period, s.third⟩ := congrArg Degree.text s.degree_eq
  refine ⟨s.height_div.symm, s.degree_hour.symm, rfl, s.height_eq_epoch_minute,
    s.height_eq_period_second, rfl, s.metadata, metadataAt_index s, rfl, rfl, htold, ?_⟩
  exact s.common_lt_rarity_iff

end Sat

end RareSats
