/-
# Every whole coin is found

The alphas of a range are its multiples of the unit, and an omega is the sat before
such a multiple. A walk takes as many steps as stay before its end
(`lt_stepsBefore`), and it starts at the multiple next to one end of the range
(`alphas_eq`, `omegas_eq`), so it meets every multiple of the range and no other
(`mem_alphas`, `mem_omegas`). The alphas are met upwards and the omegas downwards,
none of them twice (`alphas_pairwise`, `omegas_pairwise`). What is listed is what a
loop lists that goes from one multiple to the next as long as it is in the range
(`alphas_eq_ok_iff_walks`, `omegas_eq_ok_iff_walks`). An omega is the sat before an
alpha, so the omegas of a range are the alphas of the range one sat further, each
taken back by one sat and the last one first (`omegas_eq_reverse`).

Key definition: `Walks`.
Key theorems: `mem_alphas`, `mem_omegas`, `alphas_pairwise`, `omegas_pairwise`,
`alphas_eq_ok_iff_walks`, `omegas_eq_ok_iff_walks`, `omegas_eq_reverse`,
`whole_coins_exact`.
-/
import Mathlib.Data.List.Sort
import RareSats.WholeCoin

namespace RareSats

variable {start stop unit n : Int}

theorem lt_stepsBefore {length : Int} (hunit : 0 < unit) {i : Nat} :
    i < stepsBefore length unit ↔ i * unit < length := by
  have hmul : -length < -(i : Int) * unit ↔ i * unit < length := by
    rw [Int.neg_mul]
    omega
  rw [← hmul, ← Int.ediv_lt_iff_lt_mul hunit, ← Int.fdiv_eq_ediv_of_nonneg _ (Int.le_of_lt hunit)]
  unfold stepsBefore
  omega

theorem neg_fdiv_le_iff (start : Int) (hunit : 0 < unit) {k : Int} :
    -(-start).fdiv unit ≤ k ↔ start ≤ k * unit := by
  have hmul : -k * unit ≤ -start ↔ start ≤ k * unit := by
    rw [Int.neg_mul]
    omega
  rw [← hmul, ← Int.le_ediv_iff_mul_le hunit, ← Int.fdiv_eq_ediv_of_nonneg _ (Int.le_of_lt hunit)]
  omega

theorem le_fdiv_iff (stop : Int) (hunit : 0 < unit) {k : Int} :
    k ≤ stop.fdiv unit ↔ k * unit ≤ stop := by
  rw [Int.fdiv_eq_ediv_of_nonneg _ (Int.le_of_lt hunit), Int.le_ediv_iff_mul_le hunit]

theorem stepsBefore_of_nonpos {length : Int} (hunit : 0 < unit) (hlength : length ≤ 0) :
    stepsBefore length unit = 0 := by
  have hnone : ¬ 0 < stepsBefore length unit := by
    rw [lt_stepsBefore hunit, Int.natCast_zero, Int.zero_mul]
    omega
  omega

theorem alphas_eq (start stop : Int) (hunit : 0 < unit) : alphas start stop unit =
    .ok ((List.range (stepsBefore (stop - -(-start).fdiv unit * unit) unit)).map fun (i : Nat) =>
      -(-start).fdiv unit * unit + i * unit) := by
  have hzero : ¬ unit = 0 := by omega
  have hpos : ¬ unit < 0 := by omega
  simp only [alphas, if_neg hzero, if_neg hpos]
  split
  · rename_i hle
    rw [stepsBefore_of_nonpos hunit (by omega)]
    rfl
  · rfl

theorem omegas_eq (start stop : Int) (hunit : 0 < unit) : omegas start stop unit =
    .ok ((List.range (stepsBefore (stop.fdiv unit * unit - 1 + 1 - start) unit)).map
      fun (i : Nat) => stop.fdiv unit * unit - 1 - i * unit) := by
  have hzero : ¬ unit = 0 := by omega
  have hpos : ¬ unit < 0 := by omega
  simp only [omegas, if_neg hzero, if_neg hpos]
  split
  · rename_i hlt
    rw [stepsBefore_of_nonpos hunit (by omega)]
    rfl
  · rfl

theorem alphas_ok (start stop : Int) (hunit : 0 < unit) :
    ∃ found, alphas start stop unit = .ok found :=
  ⟨_, alphas_eq start stop hunit⟩

theorem omegas_ok (start stop : Int) (hunit : 0 < unit) :
    ∃ found, omegas start stop unit = .ok found :=
  ⟨_, omegas_eq start stop hunit⟩

/-- **Exactly the multiples of the unit in the range are found.** -/
theorem mem_alphas {found : List Int} (hunit : 0 < unit) (h : alphas start stop unit = .ok found) :
    n ∈ found ↔ start ≤ n ∧ n < stop ∧ unit ∣ n := by
  rw [alphas_eq start stop hunit] at h
  have hceil := fun k => neg_fdiv_le_iff start hunit (k := k)
  generalize -(-start).fdiv unit = q at h hceil
  have hfirst : start ≤ q * unit := (hceil q).mp (Int.le_refl q)
  cases h
  simp only [List.mem_map, List.mem_range, lt_stepsBefore hunit]
  constructor
  · rintro ⟨i, hi, rfl⟩
    have hstep := Int.mul_nonneg (Int.natCast_nonneg i) (Int.le_of_lt hunit)
    have hdvd : unit ∣ q * unit + i * unit :=
      ⟨q + i, by rw [Int.mul_add, Int.mul_comm, Int.mul_comm unit i]⟩
    exact ⟨by omega, by omega, hdvd⟩
  · rintro ⟨hlo, hhi, k, hk⟩
    rw [Int.mul_comm] at hk
    have hle : q ≤ k := (hceil k).mpr (by omega)
    obtain ⟨i, hi⟩ := Int.eq_ofNat_of_zero_le (Int.sub_nonneg_of_le hle)
    have hmul : k * unit = q * unit + i * unit := by
      rw [← Int.add_mul, ← hi]
      congr 1
      omega
    exact ⟨i, by omega, by omega⟩

/-- **Exactly the sats before the multiples of the unit are found**, as far as they lie in the
range. -/
theorem mem_omegas {found : List Int} (hunit : 0 < unit) (h : omegas start stop unit = .ok found) :
    n ∈ found ↔ start ≤ n ∧ n < stop ∧ unit ∣ n + 1 := by
  rw [omegas_eq start stop hunit] at h
  have hfloor := fun k => le_fdiv_iff stop hunit (k := k)
  generalize stop.fdiv unit = q at h hfloor
  have hlast : q * unit ≤ stop := (hfloor q).mp (Int.le_refl q)
  cases h
  simp only [List.mem_map, List.mem_range, lt_stepsBefore hunit]
  constructor
  · rintro ⟨i, hi, rfl⟩
    have hstep := Int.mul_nonneg (Int.natCast_nonneg i) (Int.le_of_lt hunit)
    have hdvd : unit ∣ q * unit - 1 - i * unit + 1 := by
      refine ⟨q - i, ?_⟩
      rw [Int.mul_sub, Int.mul_comm, Int.mul_comm unit i]
      omega
    exact ⟨by omega, by omega, hdvd⟩
  · rintro ⟨hlo, hhi, k, hk⟩
    rw [Int.mul_comm] at hk
    have hle : k ≤ q := (hfloor k).mpr (by omega)
    obtain ⟨i, hi⟩ := Int.eq_ofNat_of_zero_le (Int.sub_nonneg_of_le hle)
    have hmul : k * unit = q * unit - i * unit := by
      rw [← Int.sub_mul, ← hi]
      congr 1
      omega
    exact ⟨i, by omega, by omega⟩

/-! ### The direction of a walk -/

theorem step_lt_step (hunit : 0 < unit) {i j : Nat} (hij : i < j) : i * unit < j * unit :=
  Int.mul_lt_mul_of_pos_right (Int.ofNat_lt.mpr hij) hunit

theorem alphas_pairwise {found : List Int} (hunit : 0 < unit)
    (h : alphas start stop unit = .ok found) : found.Pairwise (· < ·) := by
  rw [alphas_eq start stop hunit] at h
  cases h
  refine List.pairwise_map.mpr (List.pairwise_lt_range.imp fun hij => ?_)
  exact Int.add_lt_add_left (step_lt_step hunit hij) _

theorem omegas_pairwise {found : List Int} (hunit : 0 < unit)
    (h : omegas start stop unit = .ok found) : found.Pairwise (· > ·) := by
  rw [omegas_eq start stop hunit] at h
  cases h
  refine List.pairwise_map.mpr (List.pairwise_lt_range.imp fun hij => ?_)
  exact Int.sub_lt_sub_left (step_lt_step hunit hij) _

/-! ### The loop behind a walk -/

/-- A loop that starts at `n`, lists where it is as long as that is `inside`, and goes on by
`stride` each time, ends and has listed `found`. -/
inductive Walks (inside : Int → Prop) (stride : Int) : Int → List Int → Prop
  | stop {n : Int} : ¬ inside n → Walks inside stride n []
  | step {n : Int} {found : List Int} : inside n → Walks inside stride (n + stride) found →
      Walks inside stride n (n :: found)

theorem Walks.unique {inside : Int → Prop} {stride : Int} {found found' : List Int}
    (h : Walks inside stride n found) (h' : Walks inside stride n found') : found = found' := by
  induction h generalizing found' with
  | stop hout =>
    cases h' with
    | stop _ => rfl
    | step hin _ => exact absurd hin hout
  | step hin _ ih =>
    cases h' with
    | stop hout => exact absurd hin hout
    | step _ hrest => rw [ih hrest]

/-- A loop ends after `k` rounds if its first `k` places are inside and the later ones are not. -/
theorem walks_of_count {inside : Int → Prop} {stride : Int} {k : Nat}
    (hinside : ∀ i : Nat, inside (n + i * stride) ↔ i < k) :
    Walks inside stride n ((List.range k).map fun (i : Nat) => n + i * stride) := by
  induction k generalizing n with
  | zero =>
    have hout := (hinside 0).not.mpr (Nat.lt_irrefl 0)
    rw [Int.natCast_zero, Int.zero_mul, Int.add_zero] at hout
    exact Walks.stop hout
  | succ k ih =>
    have hfirst := (hinside 0).mpr (Nat.succ_pos k)
    rw [Int.natCast_zero, Int.zero_mul, Int.add_zero] at hfirst
    -- the places after the first round are those of a loop that starts one stride further
    have hplace : ∀ i : Nat, n + (i + 1 : Nat) * stride = n + stride + i * stride := by
      intro i
      rw [Int.natCast_succ, Int.add_mul, Int.one_mul]
      omega
    have hrest : ∀ i : Nat, inside (n + stride + i * stride) ↔ i < k := by
      intro i
      rw [← hplace, hinside (i + 1)]
      exact Nat.succ_lt_succ_iff
    have hlist : (List.range (k + 1)).map (fun (i : Nat) => n + i * stride) =
        n :: (List.range k).map fun (i : Nat) => n + stride + i * stride := by
      rw [List.range_succ_eq_map, List.map_cons, List.map_map, Int.natCast_zero, Int.zero_mul,
        Int.add_zero]
      exact congrArg (n :: ·) (List.map_congr_left fun i _ => hplace i)
    rw [hlist]
    exact Walks.step hfirst (ih hrest)

/-- **The alphas are what the loop upwards lists**, which starts at the first multiple of the unit
that is not before the range. -/
theorem alphas_eq_ok_iff_walks {found : List Int} (hunit : 0 < unit) :
    alphas start stop unit = .ok found ↔
      Walks (· < stop) unit (-(-start).fdiv unit * unit) found := by
  rw [alphas_eq start stop hunit]
  generalize -(-start).fdiv unit * unit = first
  have hinside : ∀ i : Nat, first + i * unit < stop ↔ i < stepsBefore (stop - first) unit := by
    intro i
    rw [lt_stepsBefore hunit]
    omega
  have hwalks : Walks (· < stop) unit first
      ((List.range (stepsBefore (stop - first) unit)).map fun (i : Nat) => first + i * unit) :=
    walks_of_count hinside
  constructor
  · intro h
    cases h
    exact hwalks
  · intro h
    rw [hwalks.unique h]

/-- **The omegas are what the loop downwards lists**, which starts before the last multiple of the
unit that is not behind the end of the range. -/
theorem omegas_eq_ok_iff_walks {found : List Int} (hunit : 0 < unit) :
    omegas start stop unit = .ok found ↔
      Walks (start ≤ ·) (-unit) (stop.fdiv unit * unit - 1) found := by
  rw [omegas_eq start stop hunit]
  generalize stop.fdiv unit * unit - 1 = last
  have hinside : ∀ i : Nat,
      start ≤ last + i * -unit ↔ i < stepsBefore (last + 1 - start) unit := by
    intro i
    rw [lt_stepsBefore hunit, Int.mul_neg]
    omega
  have hwalks : Walks (start ≤ ·) (-unit) last
      ((List.range (stepsBefore (last + 1 - start) unit)).map fun (i : Nat) => last + i * -unit) :=
    walks_of_count hinside
  simp only [Int.mul_neg, ← Int.sub_eq_add_neg] at hwalks
  constructor
  · intro h
    cases h
    exact hwalks
  · intro h
    rw [hwalks.unique h]

/-! ### Omegas as the sats before alphas -/

/-- **Omegas and alphas are dual.** The omegas of a range are the alphas of the range one sat
further, each taken back by one sat, in reverse. -/
theorem omegas_eq_reverse {firsts lasts : List Int} (hunit : 0 < unit)
    (hfirsts : alphas (start + 1) (stop + 1) unit = .ok firsts)
    (hlasts : omegas start stop unit = .ok lasts) : lasts = (firsts.map (· - 1)).reverse := by
  have hascending := alphas_pairwise hunit hfirsts
  have hdescending : (firsts.map (· - 1)).reverse.Pairwise (· > ·) := by
    refine List.pairwise_reverse.mpr (List.pairwise_map.mpr (hascending.imp fun hlt => ?_))
    exact Int.sub_lt_sub_right hlt 1
  refine (omegas_pairwise hunit hlasts).eq_of_mem_iff hdescending fun n => ?_
  rw [mem_omegas hunit hlasts, List.mem_reverse, List.mem_map]
  constructor
  · rintro ⟨hlo, hhi, hdvd⟩
    exact ⟨n + 1, (mem_alphas hunit hfirsts).mpr ⟨by omega, by omega, hdvd⟩, by omega⟩
  · rintro ⟨m, hm, rfl⟩
    obtain ⟨hlo, hhi, hdvd⟩ := (mem_alphas hunit hfirsts).mp hm
    rw [Int.sub_add_cancel]
    exact ⟨by omega, by omega, hdvd⟩

/-- **The whole coins of a range are found exactly.** Both loops end. The first sats are listed in
strictly ascending order and are the multiples of the unit in the range; the last sats are listed in
strictly descending order and are the sats of the range before such multiples. The last sats are the
first sats of the range one sat further, each taken back by one sat, in reverse; so in the range a
last sat is followed by a first sat and a first sat has a last sat before it, but for the ends of
the range. -/
theorem whole_coins_exact (start stop : Int) {unit : Int} (hunit : 0 < unit) :
    ∃ firsts lasts : List Int,
      (alphas start stop unit = .ok firsts ∧
        Walks (· < stop) unit (-(-start).fdiv unit * unit) firsts ∧ firsts.Pairwise (· < ·) ∧
        ∀ n, n ∈ firsts ↔ start ≤ n ∧ n < stop ∧ n % unit = 0) ∧
      (omegas start stop unit = .ok lasts ∧
        Walks (start ≤ ·) (-unit) (stop.fdiv unit * unit - 1) lasts ∧ lasts.Pairwise (· > ·) ∧
        ∀ n, n ∈ lasts ↔ start ≤ n ∧ n < stop ∧ (n + 1) % unit = 0) ∧
      (∃ shifted, alphas (start + 1) (stop + 1) unit = .ok shifted ∧
        lasts = (shifted.map (· - 1)).reverse) ∧
      (∀ n ∈ lasts, n + 1 < stop → n + 1 ∈ firsts) ∧
      ∀ n ∈ firsts, start < n → n - 1 ∈ lasts := by
  obtain ⟨firsts, hfirsts⟩ := alphas_ok start stop hunit
  obtain ⟨lasts, hlasts⟩ := omegas_ok start stop hunit
  obtain ⟨shifted, hshifted⟩ := alphas_ok (start + 1) (stop + 1) hunit
  have hmem := fun n => mem_alphas hunit hfirsts (n := n)
  have hmem' := fun n => mem_omegas hunit hlasts (n := n)
  refine ⟨firsts, lasts, ⟨hfirsts, (alphas_eq_ok_iff_walks hunit).mp hfirsts,
    alphas_pairwise hunit hfirsts, fun n => ?_⟩, ⟨hlasts, (omegas_eq_ok_iff_walks hunit).mp hlasts,
    omegas_pairwise hunit hlasts, fun n => ?_⟩, ⟨shifted, hshifted,
    omegas_eq_reverse hunit hshifted hlasts⟩, fun n hn hbelow => ?_, fun n hn habove => ?_⟩
  · rw [hmem, Int.dvd_iff_emod_eq_zero]
  · rw [hmem', Int.dvd_iff_emod_eq_zero]
  · obtain ⟨hlo, -, hdvd⟩ := (hmem' n).mp hn
    exact (hmem (n + 1)).mpr ⟨by omega, hbelow, hdvd⟩
  · obtain ⟨-, hhi, hdvd⟩ := (hmem n).mp hn
    refine (hmem' (n - 1)).mpr ⟨by omega, by omega, ?_⟩
    rw [Int.sub_add_cancel]
    exact hdvd

/-- Coins of five sats around zero: the end of the range is no alpha, and the sat before it is an
omega. -/
theorem whole_coins_around_zero : ∃ firsts lasts : List Int,
    alphas (-7) 10 5 = .ok firsts ∧ -5 ∈ firsts ∧ 10 ∉ firsts ∧
      omegas (-7) 10 5 = .ok lasts ∧ -6 ∈ lasts ∧ 9 ∈ lasts ∧
      ∃ shifted, alphas (-6) 11 5 = .ok shifted ∧ lasts = (shifted.map (· - 1)).reverse := by
  have hunit : (0 : Int) < 5 := by decide
  obtain ⟨firsts, lasts, ⟨hfirsts, -, -, hmem⟩, ⟨hlasts, -, -, hmem'⟩, hdual, -, -⟩ :=
    whole_coins_exact (-7) 10 hunit
  have hfirst : -5 ∈ firsts := (hmem (-5)).mpr (by decide)
  have hend : 10 ∉ firsts := fun h => Int.lt_irrefl 10 ((hmem 10).mp h).2.1
  have hlast : -6 ∈ lasts := (hmem' (-6)).mpr (by decide)
  have hlast' : 9 ∈ lasts := (hmem' 9).mpr (by decide)
  exact ⟨firsts, lasts, hfirsts, hfirst, hend, hlasts, hlast, hlast', hdual⟩

end RareSats
