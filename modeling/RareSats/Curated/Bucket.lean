/-
# Curated intervals by height

Curated intervals are found by the height of the block that issued them, which
for blocks of one size is the quotient of their start. The intervals of one
height must not be empty and must follow one another. An interval that does not is
named with its bounds, if they can be written.

Key definitions: `Buckets`, `bucketInsert`, `bucketByHeight`, `bucketWritten`,
`Buckets.at`.
Key theorem: `bucketWritten_bounds`.
-/
import RareSats.Chunk
import RareSats.OrderedMap

namespace RareSats

/-- The intervals of each height, the heights in the order in which they came. -/
abbrev Buckets := List (Int × List Chunk)

/-- The intervals of a height, which are none if it has no bucket. -/
def Buckets.at (buckets : Buckets) (height : Int) : List Chunk :=
  (buckets.lookup height).getD []

/-- The buckets in ascending order of their heights. -/
def Buckets.sorted (buckets : Buckets) : Buckets :=
  buckets.mergeSort fun a b => a.1 ≤ b.1

/-- The error for an interval without a sat, which names the interval if its bounds can be
written. -/
def Chunk.emptyError (c : Chunk) : Error :=
  .naming .standard [c.lo, c.hi] (.emptyInterval c.lo c.hi)

/-- The error for an interval that starts before `prev` ends, which names both if their bounds can
be written. -/
def Chunk.overlapError (c prev : Chunk) : Error :=
  .naming .standard [c.lo, c.hi, prev.lo, prev.hi]
    (.overlappingInterval c.lo c.hi prev.lo prev.hi)

/-- One interval more, at the end of the bucket of its height. -/
def bucketInsert (satsPerBlock : Int) (buckets : Buckets) (c : Chunk) : Except Error Buckets :=
  if c.hi ≤ c.lo then .error c.emptyError
  else if satsPerBlock = 0 then .error .divisionByZero
  else
    let height := c.lo.fdiv satsPerBlock
    let bucket := buckets.at height
    match bucket.getLast? with
    | some prev =>
      if c.lo < prev.hi then .error (c.overlapError prev)
      else .ok (putEntry height (bucket ++ [c]) buckets)
    | none => .ok (putEntry height [c] buckets)

/-- The buckets of intervals, taken in their order. -/
def bucketByHeight (satsPerBlock : Int) (chunks : List Chunk) : Except Error Buckets :=
  chunks.foldlM (bucketInsert satsPerBlock) []

/-- One interval more, which is read from the list of its bounds. -/
def bucketRead (satsPerBlock : Int) (buckets : Buckets) (bounds : List Int) :
    Except Error Buckets :=
  (Chunk.ofBounds bounds).bind (bucketInsert satsPerBlock buckets)

/-- The buckets of written intervals, each one read when its turn comes. -/
def bucketWritten (satsPerBlock : Int) (written : List (List Int)) : Except Error Buckets :=
  written.foldlM (bucketRead satsPerBlock) []

/-- Intervals have the buckets of their written form. -/
theorem bucketWritten_bounds (satsPerBlock : Int) (chunks : List Chunk) :
    bucketWritten satsPerBlock (chunks.map Chunk.bounds) = bucketByHeight satsPerBlock chunks := by
  rw [bucketWritten, bucketByHeight, List.foldlM_map]
  rfl

end RareSats
