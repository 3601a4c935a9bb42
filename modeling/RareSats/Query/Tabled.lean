/-
# Resolving references over a shared table

All queries share one table of curated intervals, which is built by the first report
that comes to a curated kind. A tabled computation is a traced one over such a table:
its parts hand the table on, and a part that fails leaves it as it is then.

Each definition here resolves over a table what its namesake resolves with the curated
intervals at hand.

Key definitions: `Tabled`, `Tabled.curated`, `reportOn`, `resolveAllOn`.
-/
import RareSats.Query.Resolve

namespace RareSats

/-- A traced computation over a table, together with the table that it leaves. -/
def Tabled (α : Type) : Type :=
  RangeTable → Traced α × RangeTable

namespace Tabled

variable {α β : Type}

/-- A computation that does not need the table. -/
def lift (x : Traced α) : Tabled α := fun t => (x, t)

/-- One computation after another, over the table that the first one leaves. The second one is made
only if the first one gives a value. -/
protected def bind (x : Tabled α) (f : α → Tabled β) : Tabled β := fun t =>
  let (first, left) := x t
  match first.outcome with
  | .ok a =>
    let (second, last) := f a left
    (⟨first.lookups ++ second.lookups, second.outcome⟩, last)
  | .error e => (⟨first.lookups, .error e⟩, left)

instance : Monad Tabled where
  pure a := lift (pure a)
  bind := Tabled.bind

/-- The rule of a curated kind, which asks the table for the intervals at the height of a range. -/
def curated (kind : RarityKind) (q : QueryRange) : Tabled (List Entry) := fun t =>
  (Traced.lift (evaluateCurated kind (t.rangesAt kind) q), (t.step (.rangesAt kind q.height)).2)

end Tabled

/-- The chunks of a range that are of a kind. -/
def evaluateOn (kind : RarityKind) (q : QueryRange) : Tabled (List Entry) :=
  match kind with
  | .pizza => Tabled.curated .pizza q
  | other => Tabled.lift (Traced.lift (evaluate other q))

/-- The entries of some kinds, one kind after the other. -/
def evaluateAllOn (q : QueryRange) : List RarityKind → Tabled (List Entry)
  | [] => pure []
  | kind :: rest => do
    let entries ← evaluateOn kind q
    let others ← evaluateAllOn q rest
    return entries ++ others

/-- The entries of a range of one block that have a chunk. -/
def reportOn (q : QueryRange) : Tabled (List Entry) := do
  let entries ← evaluateAllOn q RarityKind.evaluated
  return entries.filter fun e => !e.chunks.isEmpty

/-- The report of one range of a reference. -/
def resolveRangeOn (source : SatSource) (reference : Text) (c : Chunk) : Tabled RangeReport := do
  let q ← Tabled.lift (Traced.lift (QueryRange.of c.lo c.hi))
  let rarities ← reportOn q
  let hash ← Tabled.lift
    (Traced.ask (.blockHash q.height) (outcomeFor reference (source.blockHash q.height)))
  return ⟨c.lo, c.hi, rarities, q.height, hash⟩

/-- What is found for a reference. -/
def resolveOn (source : SatSource) (reference : Text) : Tabled ReferenceResult := do
  let outpoint ← Tabled.lift (Traced.lift (OutPoint.parse reference))
  let chunks ← Tabled.lift
    (Traced.ask (.listRanges outpoint) (outcomeFor reference (source.listRanges outpoint)))
  let ranges ← chunks.mapM (resolveRangeOn source reference)
  let named ← Tabled.lift (Traced.lift (namedSats chunks))
  let described ← Tabled.lift (named.mapM describe)
  return ⟨reference, ranges, described⟩

/-- What is found for the references of a batch. -/
def resolveAllOn (source : SatSource) (references : List Text) :
    Tabled (List ReferenceResult) :=
  if source.tracksSats then references.mapM (resolveOn source)
  else Tabled.lift (Traced.lift (.error .satsNotTracked))

end RareSats
