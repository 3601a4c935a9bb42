/-
# Sources of lookups

A query needs two lookups and knows nothing else of where the answers come from.
An index is such a source, and a rule can make the lookups of a source fail.

Key definitions: `SatSource`, `SatIndex.source`, `FaultRule`, `SatSource.withFault`.
-/
import RareSats.Index.Basic

namespace RareSats

/-- Answers to lookups. -/
structure SatSource where
  tracksSats : Bool
  listRanges : OutPoint → Except Error (List Chunk)
  blockHash : Int → Except Error (Option Text)

/-- The lookups of an index. -/
def SatIndex.source (ix : SatIndex) : SatSource where
  tracksSats := ix.tracksSats
  listRanges := ix.listRanges
  blockHash height := .ok (ix.blockHash height)

/-- The lookups that fail: all of one sort, or those with one argument. -/
inductive FaultTarget where
  | listRanges (reference : Option Text)
  | blockHash (height : Option Int)
deriving DecidableEq, Repr

/-- The error of some lookups. -/
structure FaultRule where
  target : FaultTarget
  error : Error
deriving DecidableEq, Repr

/-- The rule is about the ranges of an output. -/
def FaultRule.hitsRanges (rule : FaultRule) (o : OutPoint) : Bool :=
  match rule.target with
  | .listRanges none => true
  | .listRanges (some reference) => Text.ofString o.text = reference
  | .blockHash _ => false

/-- The rule is about the hash of the block at a height. -/
def FaultRule.hitsHash (rule : FaultRule) (height : Int) : Bool :=
  match rule.target with
  | .blockHash none => true
  | .blockHash (some h) => height = h
  | .listRanges _ => false

/-- The source with the lookups of a rule failing. -/
def SatSource.withFault (source : SatSource) : Option FaultRule → SatSource
  | none => source
  | some rule => {
      source with
      listRanges := fun o => if rule.hitsRanges o then .error rule.error else source.listRanges o
      blockHash := fun h => if rule.hitsHash h then .error rule.error else source.blockHash h }

end RareSats
