/-
# What a window leaves of chunks

A window leaves of a chunk one chunk with the sats that lie in both, and nothing if
there is no such sat. So it leaves of chunks that hold a sat each one part of every
chunk that meets the window, in the order of the chunks, and nothing of the others
(`Chunk.forall₂_intersect`). If no two of the chunks share a sat, each part is one of a
single chunk (`Chunk.Ordered.existsUnique_whole`), and parts of chunks that touch stay
apart.

What is left by one window and then by another is what their common window leaves. This
needs no order of the chunks: it is so for each chunk alone (`Chunk.bind_clip?`).

Key definitions: `Chunk.Ordered`, `Chunk.Meets`, `Chunk.IsPart`.
Key theorems: `Chunk.ordered_iff_before`, `Chunk.forall₂_intersect`,
`Chunk.Ordered.existsUnique_whole`, `Chunk.intersect_exact`, `Chunk.bind_clip?`,
`Chunk.intersect_intersect`.
-/
import Mathlib.Data.List.Forall2
import Mathlib.Data.List.Pairwise
import RareSats.Proofs.Chunk

namespace RareSats

namespace Chunk

variable {start stop start' stop' n : Int} {c d : Chunk} {chunks : List Chunk}

/-! ### Chunks that are listed upwards -/

/-- Chunks that hold a sat each and are listed by their first sats, no two of which share a sat. -/
structure Ordered (chunks : List Chunk) : Prop where
  lo_lt_hi : ∀ c ∈ chunks, c.lo < c.hi
  sorted : chunks.Pairwise fun c d => c.lo ≤ d.lo
  disjoint : chunks.Pairwise fun c d => ∀ n, ¬ (c.Holds n ∧ d.Holds n)

theorem ordered_iff_before :
    Ordered chunks ↔ (∀ c ∈ chunks, c.lo < c.hi) ∧ chunks.Pairwise Before := by
  refine ⟨fun h => ⟨h.lo_lt_hi, ?_⟩, fun ⟨hchunks, hbefore⟩ => ⟨hchunks, ?_, ?_⟩⟩
  · refine (h.sorted.and h.disjoint).imp_of_mem fun {c d} _ hd hcd => ?_
    -- the first sat of the later chunk is not one of the earlier chunk
    have hlt := h.lo_lt_hi d hd
    have hfirst : ¬ c.Holds d.lo := fun hc => hcd.2 d.lo ⟨hc, Int.le_refl _, hlt⟩
    unfold Holds at hfirst
    unfold Before
    omega
  · refine hbefore.imp_of_mem fun {c d} hc _ hcd => ?_
    have hlt := hchunks c hc
    exact Int.le_trans (Int.le_of_lt hlt) hcd
  · exact hbefore.imp fun hcd => hcd.not_holds

theorem Ordered.eq_of_holds (h : Ordered chunks) (hc : c ∈ chunks) (hd : d ∈ chunks)
    (hcn : c.Holds n) (hdn : d.Holds n) : c = d := by
  have hsymm : Std.Symm fun c d : Chunk => ∀ n, ¬ (c.Holds n ∧ d.Holds n) :=
    ⟨fun _ _ hcd n hn => hcd n hn.symm⟩
  by_contra hne
  exact h.disjoint.forall hc hd hne n ⟨hcn, hdn⟩

/-! ### Parts -/

/-- Some sat of the chunk lies in the window from `start` to `stop`. -/
def Meets (start stop : Int) (c : Chunk) : Prop :=
  ∃ n, c.Holds n ∧ start ≤ n ∧ n < stop

/-- The chunk `d` holds the sats of `c` that lie in the window from `start` to `stop`. -/
def IsPart (start stop : Int) (c d : Chunk) : Prop :=
  ∀ n, d.Holds n ↔ c.Holds n ∧ start ≤ n ∧ n < stop

theorem meets_iff : c.Meets start stop ↔ max c.lo start < min c.hi stop := by
  constructor
  · rintro ⟨n, ⟨hlo, hhi⟩, hstart, hstop⟩
    omega
  · intro h
    exact ⟨max c.lo start, ⟨by omega, by omega⟩, by omega, by omega⟩

instance : DecidablePred (Meets start stop) := fun _ =>
  decidable_of_iff _ meets_iff.symm

theorem isPart_of_clip? (h : c.clip? start stop = some d) : IsPart start stop c d := by
  obtain ⟨-, -, rfl⟩ := clip?_eq_some_iff.mp h
  intro n
  simp only [Holds]
  omega

theorem clip?_eq_none_iff (hwindow : start < stop) (hc : c.lo < c.hi) :
    c.clip? start stop = none ↔ ¬ c.Meets start stop := by
  rw [meets_iff]
  unfold clip?
  split
  · exact iff_of_true rfl (by omega)
  · exact iff_of_false (by simp) (by omega)

theorem Inside.clip?_eq (h : c.Inside start stop) : c.clip? start stop = some c := by
  obtain ⟨hstart, hlt, hstop⟩ := h
  have hlo : max c.lo start = c.lo := by omega
  have hhi : min c.hi stop = c.hi := by omega
  exact clip?_eq_some_iff.mpr ⟨by omega, by omega, by rw [hlo, hhi]⟩

/-- **A window leaves one part of every chunk that meets it**, in the order of the chunks. -/
theorem forall₂_intersect (hwindow : start < stop) (hchunks : ∀ c ∈ chunks, c.lo < c.hi) :
    List.Forall₂ (IsPart start stop) (chunks.filter (Meets start stop))
      (intersect start stop chunks) := by
  induction chunks with
  | nil => exact List.Forall₂.nil
  | cons c rest ih =>
    rw [List.forall_mem_cons] at hchunks
    have hnone := clip?_eq_none_iff hwindow hchunks.1
    rw [intersect, List.filterMap_cons]
    cases hclip : c.clip? start stop with
    | none =>
      have hapart : ¬ c.Meets start stop := hnone.mp hclip
      rw [List.filter_cons_of_neg (by simpa using hapart)]
      exact ih hchunks.2
    | some d =>
      have hmeets : c.Meets start stop := by
        by_contra hapart
        rw [hnone.mpr hapart] at hclip
        cases hclip
      rw [List.filter_cons_of_pos (by simpa using hmeets)]
      exact List.Forall₂.cons (isPart_of_clip? hclip) (ih hchunks.2)

theorem intersect_ordered (hwindow : start < stop) (h : Ordered chunks) :
    Ordered (intersect start stop chunks) := by
  obtain ⟨hchunks, hbefore⟩ := ordered_iff_before.mp h
  refine ordered_iff_before.mpr ⟨fun d hd => ?_, intersect_before hbefore⟩
  exact (intersect_inside hwindow hchunks d hd).lo_lt_hi

/-- What is left is a part of one chunk only. -/
theorem Ordered.existsUnique_whole (hwindow : start < stop) (h : Ordered chunks)
    (hd : d ∈ intersect start stop chunks) : ∃! c, c ∈ chunks ∧ IsPart start stop c d := by
  obtain ⟨c, hc, hclip⟩ := List.mem_filterMap.mp hd
  have hpart := isPart_of_clip? hclip
  have hlt := (intersect_inside hwindow h.lo_lt_hi d hd).lo_lt_hi
  refine ⟨c, ⟨hc, hpart⟩, fun c' hc' => ?_⟩
  -- both chunks hold the first sat of the part
  have hfirst : d.Holds d.lo := ⟨Int.le_refl _, hlt⟩
  exact h.eq_of_holds hc'.1 hc ((hc'.2 _).mp hfirst).1 ((hpart _).mp hfirst).1

/-- **What a window leaves of ordered chunks.** The parts are ordered themselves, lie inside of the
window, and hold exactly the sats of the window that lie in a chunk. They are the parts of the
chunks that meet the window, one for each of these chunks and in the same order, and no part is one
of two chunks. A chunk inside of the window is a part as it is. -/
theorem intersect_exact (hwindow : start < stop) (hchunks : Ordered chunks) :
    Ordered (intersect start stop chunks) ∧
    (∀ d ∈ intersect start stop chunks, d.Inside start stop) ∧
    (∀ n, SomeHolds (intersect start stop chunks) n ↔
      start ≤ n ∧ n < stop ∧ SomeHolds chunks n) ∧
    List.Forall₂ (IsPart start stop) (chunks.filter (Meets start stop))
      (intersect start stop chunks) ∧
    (∀ d ∈ intersect start stop chunks, ∃! c, c ∈ chunks ∧ IsPart start stop c d) ∧
    ∀ c ∈ chunks, c.Inside start stop → c ∈ intersect start stop chunks := by
  refine ⟨intersect_ordered hwindow hchunks, intersect_inside hwindow hchunks.lo_lt_hi, fun n => ?_,
    forall₂_intersect hwindow hchunks.lo_lt_hi,
    fun d hd => hchunks.existsUnique_whole hwindow hd, fun c hc hinside => ?_⟩
  · rw [someHolds_intersect]
    exact ⟨fun h => ⟨h.2.1, h.2.2, h.1⟩, fun h => ⟨h.2.2, h.1, h.2.1⟩⟩
  · exact List.mem_filterMap.mpr ⟨c, hc, hinside.clip?_eq⟩

/-- Four chunks, of which the second and the third touch. -/
def touchingChunks : List Chunk :=
  [⟨0, 10⟩, ⟨12, 20⟩, ⟨20, 25⟩, ⟨30, 40⟩]

/-- The window cuts the first and the third chunk, keeps the second one and misses the last. -/
theorem intersect_exact_touching :
    Ordered touchingChunks ∧ intersect 5 23 touchingChunks = [⟨5, 10⟩, ⟨12, 20⟩, ⟨20, 23⟩] ∧
    Ordered [⟨5, 10⟩, ⟨12, 20⟩, ⟨20, 23⟩] ∧
    List.Forall₂ (IsPart 5 23) [⟨0, 10⟩, ⟨12, 20⟩, ⟨20, 25⟩] [⟨5, 10⟩, ⟨12, 20⟩, ⟨20, 23⟩] := by
  have htouching : Ordered touchingChunks := by
    refine ordered_iff_before.mpr ⟨by decide, ?_⟩
    unfold touchingChunks Before
    decide
  have hwindow : (5 : Int) < 23 := by decide
  obtain ⟨hordered, -, -, hparts, -⟩ := intersect_exact hwindow htouching
  exact ⟨htouching, by decide, hordered, hparts⟩

/-! ### Two windows -/

/-- **A chunk that is cut twice is cut by the common window**, and nothing is left of it if there is
no common window. -/
theorem bind_clip? (hwindow : start < stop) (hwindow' : start' < stop') (c : Chunk) :
    (c.clip? start' stop').bind (clip? start stop) =
      if max start start' < min stop stop' then c.clip? (max start start') (min stop stop')
      else none := by
  have hlo : max (max c.lo start') start = max c.lo (max start start') := by omega
  have hhi : min (min c.hi stop') stop = min c.hi (min stop stop') := by omega
  ext d
  simp only [Option.bind_eq_some_iff, clip?_eq_some_iff]
  split
  · rename_i hcommon
    rw [clip?_eq_some_iff, ← hlo, ← hhi]
    constructor
    · rintro ⟨_, ⟨hstart', hstop', rfl⟩, hstart, hstop, rfl⟩
      simp only at hstart hstop
      exact ⟨by omega, by omega, rfl⟩
    · rintro ⟨hstart, hstop, rfl⟩
      exact ⟨_, ⟨by omega, by omega, rfl⟩, by simp only; omega, by simp only; omega, rfl⟩
  · rename_i hapart
    refine iff_of_false ?_ (by simp)
    rintro ⟨_, ⟨hstart', hstop', rfl⟩, hstart, hstop, -⟩
    simp only at hstart hstop
    omega

/-- What two windows leave of chunks is what their common window leaves, if there is one. -/
theorem intersect_intersect_eq (hwindow : start < stop) (hwindow' : start' < stop')
    (chunks : List Chunk) :
    intersect start stop (intersect start' stop' chunks) =
      if max start start' < min stop stop'
      then intersect (max start start') (min stop stop') chunks else [] := by
  rw [intersect, intersect, List.filterMap_filterMap, funext (bind_clip? hwindow hwindow')]
  split
  · rfl
  · exact List.filterMap_none chunks

/-- **Windows compose.** What is left of chunks by one window and then by another is what their
common window leaves, part by part and in the same order, and nothing if they have no common window,
in whatever order the chunks are listed. So a window that comes a second time changes nothing, and
of two windows either can come first. -/
theorem intersect_intersect (hwindow : start < stop) (hwindow' : start' < stop')
    (chunks : List Chunk) :
    (max start start' < min stop stop' →
      intersect start stop (intersect start' stop' chunks) =
        intersect (max start start') (min stop stop') chunks) ∧
    (¬ max start start' < min stop stop' →
      intersect start stop (intersect start' stop' chunks) = []) ∧
    intersect start stop (intersect start stop chunks) = intersect start stop chunks ∧
    intersect start stop (intersect start' stop' chunks) =
      intersect start' stop' (intersect start stop chunks) := by
  have hcommon := intersect_intersect_eq hwindow hwindow' chunks
  have hturned := intersect_intersect_eq hwindow' hwindow chunks
  have hsame := intersect_intersect_eq hwindow hwindow chunks
  refine ⟨fun h => ?_, fun h => ?_, ?_, ?_⟩
  · rw [hcommon, if_pos h]
  · rw [hcommon, if_neg h]
  · rwa [Int.max_self, Int.min_self, if_pos hwindow] at hsame
  · rw [hcommon, hturned, Int.max_comm, Int.min_comm]

/-- Chunks that overlap and are not sorted, in two windows that overlap. -/
theorem intersect_intersect_overlapping :
    intersect 3 14 (intersect 6 30 [⟨12, 20⟩, ⟨0, 10⟩, ⟨5, 15⟩, ⟨14, 16⟩]) =
        intersect 6 14 [⟨12, 20⟩, ⟨0, 10⟩, ⟨5, 15⟩, ⟨14, 16⟩] ∧
      intersect 6 14 [⟨12, 20⟩, ⟨0, 10⟩, ⟨5, 15⟩, ⟨14, 16⟩] = [⟨12, 14⟩, ⟨6, 10⟩, ⟨6, 14⟩] := by
  have hwindow : (3 : Int) < 14 := by decide
  have hwindow' : (6 : Int) < 30 := by decide
  obtain ⟨hcommon, -⟩ :=
    intersect_intersect hwindow hwindow' [⟨12, 20⟩, ⟨0, 10⟩, ⟨5, 15⟩, ⟨14, 16⟩]
  exact ⟨hcommon (by decide), by decide⟩

end Chunk

end RareSats
