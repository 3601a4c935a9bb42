/-
# Chunks that lie apart

A chunk that ends before another one starts shares no sat with it. Clipping leaves of
a chunk what lies in the window, so the parts of chunks that lie apart in their order
lie apart in the same order (`Chunk.intersect_before`), each of them inside of the
window and with a sat (`Chunk.intersect_inside`), and together they hold the sats of the
chunks that lie in the window (`Chunk.someHolds_intersect`). Chunks of single sats lie
apart in the direction in which the sats are listed.

Key definitions: `Chunk.Before`, `Chunk.Inside`, `Chunk.SomeHolds`.
Key theorems: `Chunk.clip?_eq_some_iff`, `Chunk.intersect_inside`,
`Chunk.intersect_before`, `Chunk.someHolds_intersect`.
-/
import RareSats.Chunk

namespace RareSats

namespace Chunk

/-- The first chunk ends before the second one starts. -/
def Before (c d : Chunk) : Prop :=
  c.hi ≤ d.lo

/-- A chunk holds a sat, and none outside of the window from `start` to `stop`. -/
structure Inside (start stop : Int) (c : Chunk) : Prop where
  start_le_lo : start ≤ c.lo
  lo_lt_hi : c.lo < c.hi
  hi_le_stop : c.hi ≤ stop

/-- The sat `n` lies in one of the chunks. -/
def SomeHolds (chunks : List Chunk) (n : Int) : Prop :=
  ∃ c ∈ chunks, c.Holds n

variable {start stop n : Int} {c d c' d' : Chunk} {chunks : List Chunk}

theorem Before.not_holds (h : c.Before d) (n : Int) : ¬ (c.Holds n ∧ d.Holds n) := by
  rintro ⟨⟨-, hn⟩, hn', -⟩
  have : c.hi ≤ d.lo := h
  omega

/-! ### Clipped chunks -/

theorem clip?_eq_some_iff : c.clip? start stop = some d ↔
    start < c.hi ∧ c.lo < stop ∧ d = ⟨max c.lo start, min c.hi stop⟩ := by
  unfold clip?
  split
  · exact iff_of_false (fun h => by cases h) (fun h => by omega)
  · rw [Option.some.injEq]
    exact ⟨fun h => ⟨by omega, by omega, h.symm⟩, fun h => h.2.2.symm⟩

theorem inside_of_clip? (hwindow : start < stop) (hc : c.lo < c.hi)
    (h : c.clip? start stop = some d) : d.Inside start stop := by
  obtain ⟨hstart, hstop, rfl⟩ := clip?_eq_some_iff.mp h
  exact ⟨Int.le_max_right _ _, by simp only; omega, Int.min_le_right _ _⟩

/-- What is left of a chunk lies before what is left of a later one. -/
theorem Before.of_clip? (h : c.Before d) (hc : c.clip? start stop = some c')
    (hd : d.clip? start stop = some d') : c'.Before d' := by
  obtain ⟨-, -, rfl⟩ := clip?_eq_some_iff.mp hc
  obtain ⟨-, -, rfl⟩ := clip?_eq_some_iff.mp hd
  calc min c.hi stop ≤ c.hi := Int.min_le_left _ _
    _ ≤ d.lo := h
    _ ≤ max d.lo start := Int.le_max_left _ _

theorem intersect_inside (hwindow : start < stop) (hchunks : ∀ c ∈ chunks, c.lo < c.hi) :
    ∀ d ∈ intersect start stop chunks, d.Inside start stop := by
  intro d hd
  obtain ⟨c, hc, hclip⟩ := List.mem_filterMap.mp hd
  exact inside_of_clip? hwindow (hchunks c hc) hclip

theorem intersect_before (hchunks : chunks.Pairwise Before) :
    (intersect start stop chunks).Pairwise Before := by
  refine List.pairwise_filterMap.mpr (hchunks.imp ?_)
  intro c d hbefore c' hc d' hd
  exact hbefore.of_clip? hc hd

/-- **The parts in a window hold the sats of the chunks that lie in the window.** -/
theorem someHolds_intersect :
    SomeHolds (intersect start stop chunks) n ↔ SomeHolds chunks n ∧ start ≤ n ∧ n < stop := by
  unfold SomeHolds intersect
  simp only [List.mem_filterMap]
  refine ⟨fun h => ?_, fun h => ?_⟩
  · obtain ⟨d, ⟨c, hc, hclip⟩, hd⟩ := h
    obtain ⟨hcn, hrange⟩ := holds_of_clip?.mp ⟨d, hclip, hd⟩
    exact ⟨⟨c, hc, hcn⟩, hrange⟩
  · obtain ⟨⟨c, hc, hcn⟩, hrange⟩ := h
    obtain ⟨d, hclip, hd⟩ := holds_of_clip?.mpr ⟨hcn, hrange⟩
    exact ⟨d, ⟨c, hc, hclip⟩, hd⟩

/-! ### Chunks of single sats -/

theorem someHolds_singles {found : List Int} :
    SomeHolds (singles found) n ↔ n ∈ found := by
  unfold SomeHolds singles
  refine ⟨fun h => ?_, fun hn => ?_⟩
  · obtain ⟨c, hc, hlo, hhi⟩ := h
    obtain ⟨m, hm, rfl⟩ := List.mem_map.mp hc
    simp only at hlo hhi
    obtain rfl : n = m := by omega
    exact hm
  · exact ⟨⟨n, n + 1⟩, List.mem_map.mpr ⟨n, hn, rfl⟩, Int.le_refl n, by simp only; omega⟩

theorem singles_inside {sats : List Int} (hsats : ∀ n ∈ sats, start ≤ n ∧ n < stop) :
    ∀ c ∈ singles sats, c.Inside start stop := by
  intro c hc
  obtain ⟨n, hn, rfl⟩ := List.mem_map.mp hc
  obtain ⟨hstart, hstop⟩ := hsats n hn
  exact ⟨hstart, Int.lt_succ n, hstop⟩

theorem singles_before {sats : List Int} (hsats : sats.Pairwise (· < ·)) :
    (singles sats).Pairwise Before :=
  List.pairwise_map.mpr (hsats.imp fun hlt => Int.add_one_le_of_lt hlt)

theorem singles_after {sats : List Int} (hsats : sats.Pairwise (· > ·)) :
    (singles sats).Pairwise fun c d => d.Before c :=
  List.pairwise_map.mpr (hsats.imp fun hgt => Int.add_one_le_of_lt hgt)

end Chunk

end RareSats
