/-
# The table of curated intervals

The table holds the curated intervals of some kinds. It is built when it is first
needed, and a table that is built stays as it is. If the intervals of one kind
cannot be bucketed, no lookup succeeds, whatever its kind.

Key definitions: `RangeTable`, `RangeTable.tables`, `RangeTable.rangesAt`,
`RangeTable.Step`, `RangeTable.step`, `RangeTable.run`.
Key theorem: `RangeTable.step_kinds`.
-/
import RareSats.Curated.Bucket
import RareSats.Kind

namespace RareSats

/-- The buckets of each curated kind. -/
abbrev KindBuckets := List (RarityKind × Buckets)

/-- Written curated intervals, with their buckets once they are built. -/
structure RangeTable where
  sources : List (RarityKind × List (List Int))
  satsPerBlock : Int
  built : Option KindBuckets
deriving DecidableEq

namespace RangeTable

/-- The table of the given intervals, not built yet. The last intervals for a kind count. -/
def ofWritten (sources : List (RarityKind × List (List Int))) (satsPerBlock : Int) : RangeTable :=
  ⟨mapOfEntries sources, satsPerBlock, none⟩

/-- The table of the given intervals in their written form. -/
def ofSources (sources : List (RarityKind × List Chunk)) (satsPerBlock : Int) : RangeTable :=
  ofWritten (sources.map fun s => (s.1, s.2.map Chunk.bounds)) satsPerBlock

/-- The table is built. -/
def isBuilt (t : RangeTable) : Bool :=
  t.built.isSome

/-- The kinds of the table. -/
def kinds (t : RangeTable) : List RarityKind :=
  t.sources.map (·.1)

/-- The buckets of one kind after the other. -/
def build (satsPerBlock : Int) : List (RarityKind × List (List Int)) → Except Error KindBuckets
  | [] => .ok []
  | (kind, written) :: rest => do
    let buckets ← bucketWritten satsPerBlock written
    let others ← build satsPerBlock rest
    return (kind, buckets) :: others

/-- The buckets of the table, built now if they are not yet. -/
def tables (t : RangeTable) : Except Error KindBuckets :=
  match t.built with
  | some tables => .ok tables
  | none => build t.satsPerBlock t.sources

/-- The intervals of a kind at a height. The kind must be one of the table. -/
def find (tables : KindBuckets) (kind : RarityKind) (height : Int) : Except Error (List Chunk) :=
  match tables.lookup kind with
  | some buckets => .ok (buckets.at height)
  | none => .error (.notCurated kind.token)

/-- The intervals of a kind at a height in a table, which is built now if it is not yet. -/
def rangesAt (t : RangeTable) (kind : RarityKind) (height : Int) : Except Error (List Chunk) :=
  t.tables.bind fun tables => find tables kind height

/-- What can be asked of a table. -/
inductive Step where
  | warm
  | kinds
  | rangesAt (kind : RarityKind) (height : Int)
deriving DecidableEq, Repr

/-- What a table answers. -/
inductive Answer where
  | done
  | kinds (kinds : List RarityKind)
  | ranges (chunks : List Chunk)
deriving DecidableEq, Repr

/-- The answer to one step, and the table after it. -/
def step (t : RangeTable) : Step → Except Error Answer × RangeTable
  | .kinds => (.ok (.kinds t.kinds), t)
  | .warm =>
    match t.tables with
    | .ok tables => (.ok .done, { t with built := some tables })
    | .error e => (.error e, t)
  | .rangesAt kind height =>
    match t.tables with
    | .ok tables => ((find tables kind height).map .ranges, { t with built := some tables })
    | .error e => (.error e, t)

/-- The answers to steps in their order, each with the state of the table after it. -/
def run (t : RangeTable) : List Step → List (Except Error Answer × Bool)
  | [] => []
  | s :: rest =>
    let (answer, next) := t.step s
    (answer, next.isBuilt) :: run next rest

/-- Listing the kinds never fails and builds nothing. -/
theorem step_kinds (t : RangeTable) : t.step .kinds = (.ok (.kinds t.kinds), t) := rfl

/-- A table that is built stays built. -/
theorem isBuilt_step (t : RangeTable) (s : Step) (h : t.isBuilt) : (t.step s).2.isBuilt := by
  cases s with
  | kinds => exact h
  | warm =>
    simp only [step]
    split
    · rfl
    · exact h
  | rangesAt kind height =>
    simp only [step]
    split
    · rfl
    · exact h

end RangeTable

end RareSats
