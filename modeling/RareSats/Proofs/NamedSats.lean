/-
# The first sats are enough

Only the first sat of a block has a named rarity above common. A sat of a range of
one block that is not the first of the range is not the first of its block either,
so looking at the first sats of ranges gives what a walk over all their sats would,
with the same numbers (`namedSats_eq`).

Key theorems: `Sat.common_lt_rarity_iff`, `namedSats_eq`.
-/
import RareSats.Proofs.QueryRange
import RareSats.Sat.NamedSats

namespace RareSats

theorem Sat.common_lt_rarity_iff (s : Sat) : NamedRarity.common < s.rarity ↔ s.third = 0 := by
  show NamedRarity.common.rank < s.rarity.rank ↔ s.degree.third = 0
  unfold Sat.rarity
  by_cases hthird : s.degree.third = 0
  · refine iff_of_true ?_ hthird
    dsimp only
    rw [if_neg (not_not_intro hthird)]
    repeat' split
    all_goals decide
  · refine iff_of_false ?_ hthird
    dsimp only
    rw [if_pos hthird]
    decide

namespace QueryRange.OneBlock

variable {q : QueryRange} (hq : q.OneBlock)

include hq

/-- After the first sat of a range there is none above common. -/
theorem namedSat?_eq_none {n : Int} (hlo : q.start < n) (hhi : n < q.stop) (i : Nat) :
    namedSat? n i = none := by
  obtain ⟨first, hfirst, hheight⟩ := hq.exists_sat (Int.le_refl q.start) hq.start_lt_stop
  obtain ⟨s, rfl, hheight'⟩ := hq.exists_sat (Int.le_of_lt hlo) hhi
  have hthird := Sat.third_pos_of_lt (s := first) (t := s) (by omega) (by omega)
  have hcommon : ¬ s.rarity > .common := fun h => by
    rw [gt_iff_lt, s.common_lt_rarity_iff] at h
    omega
  rw [namedSat?, Sat.of_index]
  exact if_neg hcommon

end QueryRange.OneBlock

/-- The named sats among sats of which the first one has the number `k`. -/
def namedAmong (k : Nat) (sats : List Int) : List NamedSat :=
  (sats.zipIdx k).filterMap fun p => namedSat? p.1 p.2

theorem namedAmong_append (k : Nat) (a b : List Int) :
    namedAmong k (a ++ b) = namedAmong k a ++ namedAmong (k + a.length) b := by
  unfold namedAmong
  rw [List.zipIdx_append, List.filterMap_append]

theorem exists_of_mem_everyNamedSat {ranges : List Chunk} {named : NamedSat}
    (h : named ∈ everyNamedSat ranges) : ∃ s, Sat.of named.sat = .ok s := by
  obtain ⟨⟨n, i⟩, -, hnamed⟩ := List.mem_filterMap.mp h
  rw [namedSat?] at hnamed
  split at hnamed
  · rename_i s hs
    split at hnamed
    · cases hnamed
      exact ⟨s, hs⟩
    · cases hnamed
  · cases hnamed

theorem Chunk.sats_eq_cons {c : Chunk} (h : c.lo < c.hi) :
    ∃ later, c.sats = c.lo :: later ∧ ∀ n ∈ later, c.lo < n ∧ n < c.hi := by
  obtain ⟨m, hm⟩ : ∃ m, (c.hi - c.lo).toNat = m + 1 := ⟨(c.hi - c.lo).toNat - 1, by omega⟩
  refine ⟨(List.range m).map fun (i : Nat) => c.lo + (i + 1 : Nat), ?_, fun n hn => ?_⟩
  · rw [sats, hm, List.range_succ_eq_map, List.map_cons, List.map_map]
    simp only [Int.natCast_zero, Int.add_zero]
    rfl
  · obtain ⟨i, hi, rfl⟩ := List.mem_map.mp hn
    rw [List.mem_range] at hi
    omega

/-- Of the sats of a range of one block, the walk keeps the first one at most. -/
theorem namedAmong_sats {c : Chunk} {q : QueryRange} (h : QueryRange.of c.lo c.hi = .ok q)
    (k : Nat) :
    namedAmong k c.sats = (namedSat? c.lo k).toList := by
  obtain ⟨hstart, hstop, hq⟩ := QueryRange.of_eq_ok_iff.mp h
  have hlt := hq.start_lt_stop
  rw [hstart, hstop] at hlt
  obtain ⟨later, hsats, hlater⟩ := Chunk.sats_eq_cons hlt
  have hnone : (later.zipIdx (k + 1)).filterMap (fun p => namedSat? p.1 p.2) = [] := by
    rw [List.filterMap_eq_nil_iff]
    intro p hp
    obtain ⟨hlo, hhi⟩ := hlater p.1 (List.fst_mem_of_mem_zipIdx hp)
    exact hq.namedSat?_eq_none (by omega) (by omega) p.2
  rw [namedAmong, hsats, List.zipIdx_cons, List.filterMap_cons, hnone]
  cases namedSat? c.lo k <;> rfl

theorem length_sats {c : Chunk} (h : c.lo < c.hi) : (c.sats.length : Int) = c.hi - c.lo := by
  rw [Chunk.sats, List.length_map, List.length_range]
  omega

/-- Looking at the first sats of ranges of one block each gives what a walk over all sats gives. -/
theorem namedSatsFrom_eq : ∀ (ranges : List Chunk) (k : Nat),
    (∀ c ∈ ranges, ∃ q, QueryRange.of c.lo c.hi = .ok q) →
    namedSatsFrom k ranges = .ok (namedAmong k (ranges.flatMap Chunk.sats))
  | [], _, _ => rfl
  | c :: rest, k, h => by
    obtain ⟨q, hof⟩ := h c List.mem_cons_self
    obtain ⟨hlt, first, -, hfirst, -⟩ := QueryRange.ofUnder_eq_ok_iff_ends.mp hof
    have hnumber : (k : Int) + (c.hi - c.lo) = ((k + c.sats.length : Nat) : Int) := by
      rw [Int.natCast_add, length_sats hlt]
    have hrest := namedSatsFrom_eq rest (k + c.sats.length) fun d hd =>
      h d (List.mem_cons_of_mem _ hd)
    rw [namedSatsFrom, hnumber, hrest, List.flatMap_cons, namedAmong_append, namedAmong_sats hof,
      namedSat?, hfirst, Sat.of_index]
    by_cases hrarity : first.rarity > .common
    · simp only [bind, Except.bind, pure, Except.pure, if_pos hrarity]
      rfl
    · simp only [bind, Except.bind, pure, Except.pure, if_neg hrarity]
      rfl

/-- **The first sats of ranges are enough to find their named sats.** -/
theorem namedSats_eq {ranges : List Chunk}
    (h : ∀ c ∈ ranges, ∃ q, QueryRange.of c.lo c.hi = .ok q) :
    namedSats ranges = .ok (everyNamedSat ranges) :=
  namedSatsFrom_eq ranges 0 h

end RareSats
