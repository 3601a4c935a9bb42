/-
# The sat index

The index knows which ranges of sats an output holds and the hashes of blocks. It
is made from entries whose references are read as outpoints, so that references
which differ in the case of letters are one output.

Key definitions: `SatIndex`, `SatIndex.ofBounds`, `SatIndex.ofEntries`,
`SatIndex.listRanges`, `SatIndex.blockHash`.
-/
import RareSats.Chunk
import RareSats.OrderedMap
import RareSats.OutPoint
import RareSats.Text.CodePoint

namespace RareSats

/-- What is known of outputs and blocks. -/
structure SatIndex where
  tracksSats : Bool
  outputs : List (OutPoint × List Chunk)
  blockHashes : List (Int × Text)
deriving DecidableEq, Repr

namespace SatIndex

/-- The entries of outputs, the reference of each one read before its ranges. -/
def readOutputs : List (Text × List (List Int)) → Except Error (List (OutPoint × List Chunk))
  | [] => .ok []
  | (reference, bounds) :: rest => do
    let outpoint ← OutPoint.parse reference
    let chunks ← Chunk.readAll bounds
    let others ← readOutputs rest
    return (outpoint, chunks) :: others

/-- The index of entries with bounds in lists. Of equal references, and of equal heights, the last
entry counts. -/
def ofBounds (outputs : List (Text × List (List Int))) (blockHashes : List (Int × Text))
    (tracksSats : Bool) : Except Error SatIndex := do
  let entries ← readOutputs (mapOfEntries outputs)
  return ⟨tracksSats, mapOfEntries entries, mapOfEntries blockHashes⟩

/-- The index of entries. -/
def ofEntries (outputs : List (Text × List Chunk)) (blockHashes : List (Int × Text))
    (tracksSats : Bool) : Except Error SatIndex :=
  ofBounds (outputs.map fun o => (o.1, o.2.map Chunk.bounds)) blockHashes tracksSats

/-- The index that knows nothing. -/
def empty : SatIndex := ⟨true, [], []⟩

/-- The number of outputs. -/
def outputCount (ix : SatIndex) : Nat :=
  ix.outputs.length

/-- The ranges of an output, which must be known. -/
def listRanges (ix : SatIndex) (o : OutPoint) : Except Error (List Chunk) :=
  match ix.outputs.lookup o with
  | some chunks => .ok chunks
  | none => .error (.unknownReference o.text)

/-- The hash of the block at a height, if it is known. -/
def blockHash (ix : SatIndex) (height : Int) : Option Text :=
  ix.blockHashes.lookup height

end SatIndex

end RareSats
