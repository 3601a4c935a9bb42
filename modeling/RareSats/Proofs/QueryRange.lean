/-
# What a range of one block is

Only the ends of a range are looked at when it is accepted. As heights grow with
the sats, a range is accepted exactly if it holds a sat, lies in the supply and all
of its sats are of one height, which then is the height of the range
(`QueryRange.ofUnder_eq_ok_iff`). So whether there is a range with given bounds is a
matter of the sats between them (`QueryRange.exists_ofUnder_eq_ok_iff`). What is not
accepted is told as a fault of the range, but for bounds without a sat between them of
which one is too long to be written (`QueryRange.of_error_cases`).

Key definitions: `QueryRange.OneBlock`, `QueryRange.Admissible`,
`QueryRange.HasLongBound`.
Key theorems: `QueryRange.ofUnder_eq_ok_iff`, `QueryRange.exists_ofUnder_eq_ok_iff`,
`QueryRange.of_error_cases`, `QueryRange.OneBlock.exists_sat`.
-/
import RareSats.Proofs.DigitLimit
import RareSats.Proofs.Schedule
import RareSats.QueryRange

namespace RareSats

theorem Sat.of_index (s : Sat) : Sat.of s.index = .ok s :=
  Sat.of_ok_iff.mpr rfl

theorem Sat.exists_index_eq {n : Int} (hn : 0 ≤ n) (hlt : n < supply) :
    ∃ s : Sat, (s.index : Int) = n :=
  ⟨⟨n.toNat, by omega⟩, Int.toNat_of_nonneg hn⟩

namespace QueryRange

/-- A range holds a sat, and all of its sats are of its height. -/
structure OneBlock (q : QueryRange) : Prop where
  nonneg : 0 ≤ q.start
  start_lt_stop : q.start < q.stop
  stop_le_supply : q.stop ≤ supply
  height_eq : ∀ s : Sat, q.start ≤ s.index → (s.index : Int) < q.stop → q.height = s.height

variable {limit : DigitLimit} {start stop : Int} {q : QueryRange} {e : Error}

/-- A range is accepted if its first and its last sat are of one height. -/
theorem ofUnder_eq_ok_iff_ends :
    ofUnder limit start stop = .ok q ↔ start < stop ∧ ∃ first last : Sat, start = first.index ∧
      stop - 1 = last.index ∧ first.height = last.height ∧ q = ⟨start, stop, first.height⟩ := by
  unfold ofUnder
  split
  · rename_i hle
    exact iff_of_false (fun h => by cases h) (fun h => by omega)
  · rename_i hlt
    split
    · rename_i first last hfirst hlast
      split
      · rename_i hheight
        refine ⟨fun h => ?_, fun h => ?_⟩
        · cases h
          exact ⟨by omega, first, last, Sat.of_ok_iff.mp hfirst, Sat.of_ok_iff.mp hlast, hheight,
            rfl⟩
        · obtain ⟨-, first', last', h1, h2, -, rfl⟩ := h
          rw [h1, Sat.of_index] at hfirst
          cases hfirst
          rfl
      · rename_i hheight
        refine iff_of_false (fun h => by cases h) ?_
        rintro ⟨-, first', last', h1, h2, heq, -⟩
        rw [h1, Sat.of_index] at hfirst
        rw [h2, Sat.of_index] at hlast
        cases hfirst
        cases hlast
        exact hheight heq
    · rename_i e hfirst
      refine iff_of_false (fun h => by cases h) ?_
      rintro ⟨-, first, last, h1, -⟩
      rw [h1, Sat.of_index] at hfirst
      cases hfirst
    · rename_i e hlast
      refine iff_of_false (fun h => by cases h) ?_
      rintro ⟨-, first, last, -, h2, -⟩
      rw [h2, Sat.of_index] at hlast
      cases hlast

/-- **A range is accepted exactly if all of its sats are of one height**, whatever the limit on
numbers that are written. -/
theorem ofUnder_eq_ok_iff :
    ofUnder limit start stop = .ok q ↔ q.start = start ∧ q.stop = stop ∧ q.OneBlock := by
  rw [ofUnder_eq_ok_iff_ends]
  refine ⟨fun h => ?_, fun h => ?_⟩
  · obtain ⟨hlt, first, last, hfirst, hlast, hheight, rfl⟩ := h
    refine ⟨rfl, rfl, ?_, hlt, ?_, ?_⟩
    · simp only; omega
    · have := last.lt_supply
      simp only; omega
    · intro s hs hs'
      simp only at hs hs'
      have hlo := Sat.height_mono (s := first) (t := s) (by omega)
      have hhi := Sat.height_mono (s := s) (t := last) (by omega)
      simp only; omega
  · obtain ⟨rfl, rfl, hq⟩ := h
    have hlt := hq.start_lt_stop
    have hsupply := hq.stop_le_supply
    obtain ⟨first, hfirst⟩ := Sat.exists_index_eq hq.nonneg (by omega)
    obtain ⟨last, hlast⟩ := Sat.exists_index_eq (n := q.stop - 1) (by have := hq.nonneg; omega)
      (by omega)
    have hf := hq.height_eq first (by omega) (by omega)
    have hl := hq.height_eq last (by omega) (by omega)
    refine ⟨hlt, first, last, hfirst.symm, hlast.symm, by omega, ?_⟩
    rw [← hf]

theorem of_eq_ok_iff : of start stop = .ok q ↔ q.start = start ∧ q.stop = stop ∧ q.OneBlock :=
  ofUnder_eq_ok_iff

/-- Between the bounds lies a sat, only sats lie between them, and all of these are of one height. -/
structure Admissible (start stop : Int) : Prop where
  nonneg : 0 ≤ start
  start_lt_stop : start < stop
  stop_le_supply : stop ≤ supply
  height_eq : ∀ s t : Sat, start ≤ s.index → (s.index : Int) < stop →
    start ≤ t.index → (t.index : Int) < stop → s.height = t.height

theorem Admissible.oneBlock (h : Admissible start stop) :
    ∃ q : QueryRange, q.start = start ∧ q.stop = stop ∧ q.OneBlock := by
  have hlt := h.start_lt_stop
  have hsupply := h.stop_le_supply
  obtain ⟨first, hfirst⟩ := Sat.exists_index_eq h.nonneg (by omega)
  refine ⟨⟨start, stop, first.height⟩, rfl, rfl, h.nonneg, hlt, hsupply, fun s hs hs' => ?_⟩
  exact congrArg Nat.cast (h.height_eq first s (by omega) (by omega) hs hs')

theorem OneBlock.admissible {q : QueryRange} (hq : q.OneBlock) : Admissible q.start q.stop where
  nonneg := hq.nonneg
  start_lt_stop := hq.start_lt_stop
  stop_le_supply := hq.stop_le_supply
  height_eq s t hs hs' ht ht' := by
    have hheight := (hq.height_eq s hs hs').symm.trans (hq.height_eq t ht ht')
    exact Int.ofNat_inj.mp hheight

/-- **There is a range with given bounds exactly if the sats between them are of one height.** -/
theorem exists_ofUnder_eq_ok_iff :
    (∃ q, ofUnder limit start stop = .ok q) ↔ Admissible start stop := by
  simp only [ofUnder_eq_ok_iff]
  refine ⟨fun h => ?_, Admissible.oneBlock⟩
  obtain ⟨q, rfl, rfl, hq⟩ := h
  exact hq.admissible

theorem OneBlock.exists_sat {q : QueryRange} (hq : q.OneBlock) {n : Int} (hn : q.start ≤ n)
    (hn' : n < q.stop) : ∃ s : Sat, (s.index : Int) = n ∧ q.height = s.height := by
  have hnonneg := hq.nonneg
  have hsupply := hq.stop_le_supply
  obtain ⟨s, hs⟩ := Sat.exists_index_eq (n := n) (by omega) (by omega)
  exact ⟨s, hs, hq.height_eq s (by omega) (by omega)⟩

theorem OneBlock.writes_last {q : QueryRange} (hq : q.OneBlock) :
    DigitLimit.standard.writes (q.stop - 1) = true := by
  have hnonneg := hq.nonneg
  have hlt := hq.start_lt_stop
  have hsupply := hq.stop_le_supply
  exact DigitLimit.writes_of_le_supply (by omega) (by omega)

theorem OneBlock.writes_height {q : QueryRange} (hq : q.OneBlock) :
    DigitLimit.standard.writes q.height = true := by
  obtain ⟨s, -, hheight⟩ := hq.exists_sat (Int.le_refl q.start) hq.start_lt_stop
  have hbound : s.height / halvingInterval < epochCount := by
    rw [s.height_div]
    exact s.epoch_lt_epochCount
  have hlt : s.height < epochCount * halvingInterval :=
    (Nat.div_lt_iff_lt_mul halvingInterval_pos).mp hbound
  have hsupply : epochCount * halvingInterval ≤ supply := by decide
  exact DigitLimit.writes_of_le_supply (by omega) (by omega)

/-! ### What is not accepted -/

/-- What is not accepted is told as a fault of the range, unless a bound is too long to be written:
then there is no sat between the bounds, or there are sats only. -/
theorem ofUnder_error_cases (h : ofUnder limit start stop = .error e) :
    (∃ fault, e = .invalidRange fault) ∨ e = .unwritableNumber ∧
      (∃ n ∈ [start, stop], limit.writes n = false) ∧
      (stop ≤ start ∨ 0 ≤ start ∧ start < stop ∧ stop ≤ supply) := by
  have hnamed : ∀ fault, (∃ fault', Error.naming limit [start, stop] (.invalidRange fault) =
      .invalidRange fault') ∨ Error.naming limit [start, stop] (.invalidRange fault) =
        .unwritableNumber ∧ ∃ n ∈ [start, stop], limit.writes n = false := fun fault =>
    (Error.naming_cases limit _ _).imp_left fun hsame => ⟨fault, hsame⟩
  unfold ofUnder at h
  split at h
  · rename_i hle
    cases h
    exact (hnamed _).imp_right fun ⟨hlong, hbound⟩ => ⟨hlong, hbound, Or.inl hle⟩
  · split at h
    · rename_i first last hfirst hlast
      split at h
      · cases h
      · cases h
        rw [Sat.of_ok_iff] at hfirst hlast
        have hsupply := last.lt_supply
        exact (hnamed _).imp_right fun ⟨hlong, hbound⟩ => ⟨hlong, hbound, Or.inr (by omega)⟩
    · cases h
      exact Or.inl ⟨_, rfl⟩
    · cases h
      exact Or.inl ⟨_, rfl⟩

theorem exists_fault_of_unlimited (h : ofUnder .unlimited start stop = .error e) :
    ∃ fault, e = .invalidRange fault := by
  rcases ofUnder_error_cases h with hfault | ⟨-, ⟨n, -, hn⟩, -⟩
  · exact hfault
  · rw [DigitLimit.writes_unlimited] at hn
    cases hn

/-- There is no sat between the bounds, and one of them has more digits than are ever written. -/
structure HasLongBound (start stop : Int) : Prop where
  stop_le_start : stop ≤ start
  long_bound : Error.digitLimit < (digits start.natAbs).length ∨
    Error.digitLimit < (digits stop.natAbs).length

/-- **What is not accepted is told as a fault of the range**, unless a bound is too long. -/
theorem of_error_cases (h : of start stop = .error e) :
    (∃ fault, e = .invalidRange fault) ∨ e = .unwritableNumber ∧ HasLongBound start stop := by
  rcases ofUnder_error_cases h with hfault | ⟨hlong, ⟨n, hn, hwrites⟩, hle | hsats⟩
  · exact Or.inl hfault
  · rw [DigitLimit.writes_standard_eq_false_iff] at hwrites
    refine Or.inr ⟨hlong, hle, ?_⟩
    rw [List.mem_cons, List.mem_singleton] at hn
    rcases hn with rfl | rfl
    · exact Or.inl hwrites
    · exact Or.inr hwrites
  · have hsat : 0 ≤ n ∧ n ≤ supply := by
      rw [List.mem_cons, List.mem_singleton] at hn
      rcases hn with rfl | rfl <;> omega
    rw [DigitLimit.writes_of_le_supply hsat.1 hsat.2] at hwrites
    cases hwrites

theorem HasLongBound.of_eq (h : HasLongBound start stop) :
    of start stop = .error .unwritableNumber := by
  have hlong : ¬ ([start, stop].all DigitLimit.standard.writes = true) := by
    simp only [List.all_cons, List.all_nil, Bool.and_true, Bool.and_eq_true, not_and_or,
      Bool.not_eq_true, DigitLimit.writes_standard_eq_false_iff]
    exact h.long_bound
  rw [of, ofUnder, if_pos h.stop_le_start, Error.naming, if_neg hlong]

theorem hasLongBound_pow : HasLongBound (10 ^ Error.digitLimit) 0 where
  stop_le_start := Int.pow_nonneg (by decide)
  long_bound :=
    Or.inl (DigitLimit.writes_standard_eq_false_iff.mp (DigitLimit.writes_atMost_pow _))

end QueryRange

end RareSats
