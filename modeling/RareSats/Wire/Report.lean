/-
# Reports in transit

How chunks, entries and reports are received and sent.

Key definitions: `checkNatural`, `checkChunk`, `checkEntry`, `RangeReport`, `checkRangeReport`,
`Chunk.toJson`, `Entry.toJson`, `RangeReport.toJson`.
-/
import RareSats.Report.Evaluate
import RareSats.Wire.Platform

namespace RareSats

variable [Platform]

/-- An integer that is not negative, in any of its spellings. -/
def checkNatural (j : Json) : Checked Int :=
  match Platform.integer j with
  | .ok n => if n < 0 then .fail .negative else .ok n
  | .error e => .error e

/-- A bound at a place among the items of a chunk. -/
def checkBound (items : List Json) (i : Nat) : Checked Int :=
  Checked.under (.index i) <|
    match items[i]? with
    | some j => Platform.integer j
    | none => .fail .missing

/-- A chunk: a list of its two bounds. -/
def checkChunk : Json → Checked Chunk
  | .arr items =>
    if 2 < items.length then .fail (.longTuple items.length)
    else (checkBound items 0).both (checkBound items 1) |>.map fun (lo, hi) => ⟨lo, hi⟩
  | _ => .fail .notTuple

/-- A kind, by its word. -/
def checkKind : Json → Checked RarityKind
  | .str t =>
    match RarityKind.ofToken? t with
    | some k => .ok k
    | none => .fail (if t.string?.isSome then .notKind else .surrogate)
  | _ => .fail .notKind

/-- Chunks, of which there must be one. -/
def checkSomeChunks (j : Json) : Checked (List Chunk) :=
  match checkList checkChunk j with
  | .ok [] => .fail .emptyList
  | result => result

/-- An entry of a report. -/
def checkEntry (j : Json) : Checked Entry := do
  let members ← checkObject "RarityChunks" j
  (requiredField members "kind" checkKind).both (requiredField members "chunks" checkSomeChunks)
    |>.map fun (kind, chunks) => ⟨kind, chunks⟩

/-- The report of a range of one block, with the block that issued it. -/
structure RangeReport where
  start : Int
  stop : Int
  rarities : List Entry
  blockHeight : Int
  /-- The hash of the block, if it is known. -/
  blockHash : Option Text
deriving DecidableEq, Repr

/-- A text or null. -/
def checkOptionalText : Json → Checked (Option Text)
  | .null => .ok none
  | j => (checkText j).map some

/-- The report of a range. -/
def checkRangeReport (j : Json) : Checked RangeReport := do
  let members ← checkObject "SatRangeReport" j
  (requiredField members "start" checkNatural).both
      ((requiredField members "end" checkNatural).both
        ((optionalField members "rarities" [] (checkList checkEntry)).both
          ((requiredField members "block_height" checkNatural).both
            (optionalField members "block_hash" none checkOptionalText))))
    |>.map fun (start, stop, rarities, height, hash) => ⟨start, stop, rarities, height, hash⟩

/-- A chunk as it is sent. -/
def Chunk.toJson (c : Chunk) : Json :=
  .arr [.int c.lo, .int c.hi]

/-- Chunks as they are sent. -/
def chunksToJson (chunks : List Chunk) : Json :=
  .arr (chunks.map Chunk.toJson)

/-- An entry of a report as it is sent. -/
def Entry.toJson (e : Entry) : Json :=
  .ofMembers [("kind", .ofString e.kind.token), ("chunks", chunksToJson e.chunks)]

/-- A text or null as it is sent. -/
def optionalTextToJson : Option Text → Json
  | some t => .str t
  | none => .null

/-- The report of a range as it is sent. -/
def RangeReport.toJson (r : RangeReport) : Json :=
  .ofMembers [
    ("start", .int r.start),
    ("end", .int r.stop),
    ("rarities", .arr (r.rarities.map Entry.toJson)),
    ("block_height", .int r.blockHeight),
    ("block_hash", optionalTextToJson r.blockHash)]

end RareSats
