/-
# Ranges of one block

A query is about a range of sats that one block issued. Only its first and its
last sat are looked at: heights grow with the sats, so the sats between them come
from the same block. A range without a sat is refused by its bounds, so that bounds
which are too long to be written have an error of their own. The index of a sat that is
never issued is told if it can be written, and is a fault of the range in any case.

Key definitions: `QueryRange`, `QueryRange.ofUnder`, `QueryRange.of`,
`QueryRange.whole`.
-/
import RareSats.Chunk
import RareSats.Sat.Basic

namespace RareSats

/-- The sats from `start` on and before `stop`, with the height of the block that issued them. -/
structure QueryRange where
  start : Int
  stop : Int
  height : Int
deriving DecidableEq, Repr

namespace QueryRange

/-- The fault of a range with a sat that is never issued. -/
def unissued (limit : DigitLimit) (index : Int) : RangeFault :=
  if limit.writes index then .outsideSupply index else .unwritableIndex

/-- The range with the given bounds, which must be those of sats of one block, where numbers are
written under a limit. -/
def ofUnder (limit : DigitLimit) (start stop : Int) : Except Error QueryRange :=
  if stop ≤ start then .error (.naming limit [start, stop] (.invalidRange (.empty start stop)))
  else
    match Sat.of start, Sat.of (stop - 1) with
    | .ok first, .ok last =>
      if first.height = last.height then .ok ⟨start, stop, first.height⟩
      else .error (.naming limit [start, stop] (.invalidRange (.straddles start stop)))
    | .error _, _ => .error (.invalidRange (unissued limit start))
    | .ok _, .error _ => .error (.invalidRange (unissued limit (stop - 1)))

/-- The range with the given bounds, which must be those of sats of one block. -/
def of (start stop : Int) : Except Error QueryRange :=
  ofUnder .standard start stop

/-- The range as one chunk. -/
def whole (q : QueryRange) : List Chunk :=
  [⟨q.start, q.stop⟩]

end QueryRange

end RareSats
