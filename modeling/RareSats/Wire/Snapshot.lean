/-
# Snapshots of an index in transit

A snapshot holds the ranges of outputs, the hashes of blocks, and whether sats are
tracked at all. All parts may be missing. Heights are written as texts, and later
members count where two of them have the same height.

Key definitions: `Snapshot`, `checkEntries`, `checkSnapshot`, `Snapshot.toJson`.
-/
import RareSats.Wire.Report

namespace RareSats

/-- What an index holds. -/
structure Snapshot where
  tracksSats : Bool
  outputs : List (Text × List Chunk)
  blockHashes : List (Int × Text)
deriving DecidableEq, Repr

/-- The entries of a dictionary, the key of each one checked before its value. -/
def checkEntries {α β : Type} (checkKey : Text → Checked α) (checkValue : Json → Checked β) :
    List (Text × Json) → Checked (List (α × β))
  | [] => .ok []
  | (name, j) :: rest =>
    let key := ((checkKey name).under (.key "[key]")).under (.entry name)
    (key.both ((checkValue j).under (.entry name))).both (checkEntries checkKey checkValue rest)
      |>.map fun (e, l) => e :: l

/-- A dictionary, which holds the last value for every key. -/
def checkDictionary {α β : Type} [DecidableEq α] (checkKey : Text → Checked α)
    (checkValue : Json → Checked β) : Json → Checked (List (α × β))
  | .obj members => (checkEntries checkKey checkValue members).map mapOfEntries
  | _ => .fail .notDictionary

/-- A snapshot. -/
def checkSnapshot [Platform] (j : Json) : Checked Snapshot := do
  let members ← checkObject "IndexSnapshot" j
  (optionalField members "sat_index" true Platform.boolean).both
      ((optionalField members "outputs" [] (checkDictionary .ok (checkList checkChunk))).both
        (optionalField members "block_hashes" []
          (checkDictionary (Platform.integer ∘ Json.str) checkText)))
    |>.map fun (tracksSats, outputs, blockHashes) => ⟨tracksSats, outputs, blockHashes⟩

/-- A snapshot as it is sent. Of references that are sent under one name the last counts. -/
def Snapshot.toJson [Platform] (s : Snapshot) : Json :=
  .ofMembers [
    ("sat_index", .bool s.tracksSats),
    ("outputs",
      .obj (mapOfEntries (s.outputs.map fun o => (Platform.sentName o.1, chunksToJson o.2)))),
    ("block_hashes", .obj (s.blockHashes.map fun h => (.ofString (toString h.1), .str h.2)))]

end RareSats
