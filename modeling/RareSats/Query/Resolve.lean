/-
# Resolving references

A batch of references is resolved one after the other: the reference is read, its
ranges are looked up, each range gets its report and the hash of its block, and the
named sats get their metadata. The first error ends the batch, and a batch without
an error has one result per reference. A failure of the index is told against the
reference that was being resolved.

Key definitions: `ReferenceResult`, `resolveRange`, `resolve`, `resolveAll`.
-/
import RareSats.Index.Source
import RareSats.Query.Traced
import RareSats.Report.Build
import RareSats.Sat.Metadata
import RareSats.Sat.NamedSats
import RareSats.Wire.Report

namespace RareSats

/-- A named sat with its metadata. -/
structure DescribedSat where
  named : NamedSat
  metadata : Metadata
deriving DecidableEq, Repr

/-- What is found for a reference. -/
structure ReferenceResult where
  reference : Text
  ranges : List RangeReport
  namedSats : List DescribedSat
deriving DecidableEq, Repr

/-- The outcome of a lookup for a reference. An error that is not for the caller is told as a failure
to resolve the reference. -/
def outcomeFor {α : Type} (reference : Text) : Except Error α → Except Error α
  | .ok a => .ok a
  | .error e => .error (if e.isReportable then e else .lookupFailed reference e.message)

/-- The report of one range of a reference. -/
def resolveRange (source : SatSource) (reference : Text) (c : Chunk) : Traced RangeReport := do
  let q ← Traced.lift (QueryRange.of c.lo c.hi)
  let rarities ← Traced.lift (reportOf q)
  let hash ← Traced.ask (.blockHash q.height) (outcomeFor reference (source.blockHash q.height))
  return ⟨c.lo, c.hi, rarities, q.height, hash⟩

/-- A named sat with its metadata. -/
def describe (named : NamedSat) : Traced DescribedSat := do
  let metadata ← Traced.ask (.metadata named.sat) (metadataAt named.sat)
  return ⟨named, metadata⟩

/-- What is found for a reference. -/
def resolve (source : SatSource) (reference : Text) : Traced ReferenceResult := do
  let outpoint ← Traced.lift (OutPoint.parse reference)
  let chunks ← Traced.ask (.listRanges outpoint)
    (outcomeFor reference (source.listRanges outpoint))
  let ranges ← chunks.mapM (resolveRange source reference)
  let named ← Traced.lift (namedSats chunks)
  let described ← named.mapM describe
  return ⟨reference, ranges, described⟩

/-- What is found for the references of a batch. -/
def resolveAll (source : SatSource) (references : List Text) : Traced (List ReferenceResult) :=
  if source.tracksSats then references.mapM (resolve source)
  else Traced.lift (.error .satsNotTracked)

end RareSats
