/-
# A degree tells its sat

The hour, the minute and the second of a degree all show the height of a block: the
hour counts the cycles before it, and the minute and the second are its remainders by
the blocks of an epoch and of an adjustment. These two numbers have a divisor in common,
so the two remainders are not independent (`Sat.minute_modEq_second`); but their least
common multiple is one cycle, so the remainders tell the place of the block in its cycle
and with the hour its height (`height_eq_of_dials`). The third then tells the sat. In the
notation of a degree a mark that is no digit stands behind each number, so the text tells
the degree (`Degree.text_injective`).

Key theorems: `height_eq_of_dials`, `Degree.text_injective`, `Sat.degree_identifies`.
-/
import Mathlib.Data.Nat.ModEq
import RareSats.Proofs.Place

namespace RareSats

theorem gcd_intervals : Nat.gcd halvingInterval adjustmentInterval = 336 := by
  decide

/-- A cycle is the least number of blocks after which halvings and adjustments coincide again. -/
theorem lcm_intervals :
    Nat.lcm halvingInterval adjustmentInterval = epochsPerCycle * halvingInterval := by
  decide

/-- **The dials for the cycle, the epoch and the adjustment tell the height.** -/
theorem height_eq_of_dials {h k : Nat}
    (hhour : h / (epochsPerCycle * halvingInterval) = k / (epochsPerCycle * halvingInterval))
    (hminute : h % halvingInterval = k % halvingInterval)
    (hsecond : h % adjustmentInterval = k % adjustmentInterval) : h = k := by
  have hcycle : h % (epochsPerCycle * halvingInterval) =
      k % (epochsPerCycle * halvingInterval) := by
    rw [← lcm_intervals]
    exact Nat.mod_lcm hminute hsecond
  calc h = epochsPerCycle * halvingInterval * (h / (epochsPerCycle * halvingInterval)) +
        h % (epochsPerCycle * halvingInterval) := (Nat.div_add_mod _ _).symm
    _ = epochsPerCycle * halvingInterval * (k / (epochsPerCycle * halvingInterval)) +
        k % (epochsPerCycle * halvingInterval) := by rw [hhour, hcycle]
    _ = k := Nat.div_add_mod _ _

/-! ### The notation -/

namespace Degree

theorem toList_text (d : Degree) : d.text.toList =
    digits d.hour ++ '°' :: (digits d.minute ++ '′' :: (digits d.second ++ '″' ::
      (digits d.third ++ ['‴']))) := by
  have hmarks : (toString "°").toList = ['°'] ∧ (toString "′").toList = ['′'] ∧
      (toString "″").toList = ['″'] ∧ (toString "‴").toList = ['‴'] := ⟨rfl, rfl, rfl, rfl⟩
  simp [text, String.toList_append, Nat.toString_eq_repr, Nat.toList_repr, hmarks, digits]

/-- **The notation of a degree tells the degree.** -/
theorem text_injective {d e : Degree} (h : d.text = e.text) : d = e := by
  have hlist := congrArg String.toList h
  have hour : '°'.isDigit = false := rfl
  have minute : '′'.isDigit = false := rfl
  have second : '″'.isDigit = false := rfl
  have third : '‴'.isDigit = false := rfl
  rw [toList_text, toList_text, digits_append_mark_inj hour, digits_append_mark_inj minute,
    digits_append_mark_inj second, digits_append_mark_inj third] at hlist
  cases d
  cases e
  simpa [Degree.mk.injEq] using hlist

end Degree

/-! ### Degrees of sats -/

namespace Sat

theorem degree_hour (s : Sat) : s.degree.hour = s.cycle := by
  calc s.height / (epochsPerCycle * halvingInterval)
      = s.height / halvingInterval / epochsPerCycle := by
        rw [Nat.mul_comm, Nat.div_div_eq_div_mul]
    _ = s.epoch / epochsPerCycle := by rw [s.height_div]

theorem height_eq_epoch_minute (s : Sat) :
    s.height = halvingInterval * s.epoch + s.degree.minute := by
  rw [← s.height_div]
  exact (Nat.div_add_mod s.height halvingInterval).symm

theorem height_eq_period_second (s : Sat) :
    s.height = adjustmentInterval * s.period + s.degree.second :=
  (Nat.div_add_mod s.height adjustmentInterval).symm

theorem degree_bounds (s : Sat) :
    s.degree.minute < halvingInterval ∧ s.degree.second < adjustmentInterval :=
  ⟨Nat.mod_lt _ halvingInterval_pos, Nat.mod_lt _ (by decide)⟩

/-- The minute and the second are remainders of one height, so they agree up to what divides both
intervals. -/
theorem minute_modEq_second (s : Sat) :
    s.degree.minute ≡ s.degree.second [MOD Nat.gcd halvingInterval adjustmentInterval] := by
  have hminute : s.degree.minute ≡ s.height [MOD halvingInterval] := Nat.mod_modEq _ _
  have hsecond : s.degree.second ≡ s.height [MOD adjustmentInterval] := Nat.mod_modEq _ _
  have hleft := hminute.of_dvd (Nat.gcd_dvd_left halvingInterval adjustmentInterval)
  have hright := hsecond.of_dvd (Nat.gcd_dvd_right halvingInterval adjustmentInterval)
  exact hleft.trans hright.symm

theorem eq_of_degree {s t : Sat} (h : s.degree = t.degree) : s = t := by
  simp only [degree, Degree.mk.injEq] at h
  obtain ⟨hhour, hminute, hsecond, hthird⟩ := h
  exact eq_of_place (height_eq_of_dials hhour hminute hsecond) hthird

/-- **A degree tells its sat.** Two sats whose degrees agree in hour, minute, second and third are
one sat, and so are two sats whose degrees are written alike. The minute of a sat lies below the
blocks of an epoch, the second below those of an adjustment, and the two are congruent modulo 336. -/
theorem degree_identifies (s t : Sat) :
    (s.degree.hour = t.degree.hour ∧ s.degree.minute = t.degree.minute ∧
      s.degree.second = t.degree.second ∧ s.degree.third = t.degree.third ↔ s = t) ∧
    (s.degree.text = t.degree.text ↔ s = t) ∧
    s.degree.minute < 210000 ∧ s.degree.second < 2016 ∧
    s.degree.minute ≡ s.degree.second [MOD 336] := by
  have hbounds := s.degree_bounds
  have hagree := s.minute_modEq_second
  rw [gcd_intervals] at hagree
  refine ⟨⟨fun h => ?_, ?_⟩, ⟨fun h => ?_, ?_⟩, hbounds.1, hbounds.2, hagree⟩
  · obtain ⟨hhour, hminute, hsecond, hthird⟩ := h
    exact eq_of_degree (by rw [Degree.mk.injEq]; exact ⟨hhour, hminute, hsecond, hthird⟩)
  · rintro rfl
    exact ⟨rfl, rfl, rfl, rfl⟩
  · exact eq_of_degree (Degree.text_injective h)
  · rintro rfl
    rfl

end Sat

end RareSats
