/-
# Chunks of sats

A chunk is a half-open interval of sat indices. Clipping cuts chunks to a window
and drops those that lie outside of it. A chunk is written as the list of its two
bounds, and a list of any other length is none.

Key definitions: `Chunk`, `Chunk.Holds`, `Chunk.clip?`, `Chunk.intersect`,
`Chunk.singles`, `Chunk.ofBounds`, `Chunk.readAll`.
Key theorems: `Chunk.holds_of_clip?`, `Chunk.readAll_bounds`.
-/
import RareSats.Error

namespace RareSats

/-- The sats from `lo` on and before `hi`. -/
structure Chunk where
  lo : Int
  hi : Int
deriving DecidableEq, Repr

namespace Chunk

/-- The chunk holds the sat `n`. -/
def Holds (c : Chunk) (n : Int) : Prop :=
  c.lo ≤ n ∧ n < c.hi

instance (c : Chunk) (n : Int) : Decidable (c.Holds n) :=
  inferInstanceAs (Decidable (_ ∧ _))

/-- The part of a chunk inside the window from `start` to `stop`, unless the two lie apart. -/
def clip? (start stop : Int) (c : Chunk) : Option Chunk :=
  if start ≥ c.hi ∨ stop ≤ c.lo then none
  else some ⟨max c.lo start, min c.hi stop⟩

/-- The parts of chunks inside a window, in the order of the chunks. -/
def intersect (start stop : Int) (chunks : List Chunk) : List Chunk :=
  chunks.filterMap (clip? start stop)

/-- One chunk for each sat, in the order given. -/
def singles (sats : List Int) : List Chunk :=
  sats.map fun n => ⟨n, n + 1⟩

/-- The chunk with the bounds in a list, which must be two. -/
def ofBounds : List Int → Except Error Chunk
  | [lo, hi] => .ok ⟨lo, hi⟩
  | [] => .error (.boundsMissing 0)
  | [_] => .error (.boundsMissing 1)
  | _ => .error .boundsExtra

/-- The bounds of a chunk in a list. -/
def bounds (c : Chunk) : List Int :=
  [c.lo, c.hi]

/-- The chunks with bounds in lists. -/
def readAll : List (List Int) → Except Error (List Chunk)
  | [] => .ok []
  | bounds :: rest => do
    let c ← ofBounds bounds
    let others ← readAll rest
    return c :: others

/-- The parts inside a window of chunks with bounds in lists. -/
def intersectRead (start stop : Int) (written : List (List Int)) : Except Error (List Chunk) :=
  (readAll written).map (intersect start stop)

theorem ofBounds_bounds (c : Chunk) : ofBounds c.bounds = .ok c := rfl

/-- Chunks are found again in the lists of their bounds. -/
theorem readAll_bounds (chunks : List Chunk) : readAll (chunks.map bounds) = .ok chunks := by
  induction chunks with
  | nil => rfl
  | cons c rest ih =>
    simp only [List.map_cons, readAll, ofBounds_bounds, ih]
    rfl

/-- Clipping keeps exactly the sats inside the window. -/
theorem holds_of_clip? {start stop n : Int} {c : Chunk} :
    (∃ d, c.clip? start stop = some d ∧ d.Holds n) ↔ c.Holds n ∧ start ≤ n ∧ n < stop := by
  unfold clip? Holds
  split
  · rename_i h
    simp only [reduceCtorEq, false_and, exists_false, false_iff]
    omega
  · simp only [Option.some.injEq, exists_eq_left']
    omega

end Chunk

end RareSats
