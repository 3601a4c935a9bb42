/-
# Looking up and scanning

The rule of a curated kind looks up the intervals at the height of a range in a table
that files each interval under the quotient of its start, and clips these. Where every
interval lies inside one block of the first epoch, the quotient is the height of that
block, so the rule gives what clipping all intervals would, whatever the table was
asked before (`evaluateCurated_of_bucketed`). The pizza intervals are such intervals.

Key theorems: `evaluateCurated_of_bucketed`, `evaluateCurated_eq_scan`.
-/
import Mathlib.Data.List.Nodup
import RareSats.Proofs.Curated
import RareSats.Proofs.Table
import RareSats.Report.Evaluate

namespace RareSats

/-! ### Lookups in a table -/

theorem RangeTable.answer_rangesAt (t : RangeTable) (kind : RarityKind) (height : Int) :
    (t.step (.rangesAt kind height)).1 = (t.rangesAt kind height).map .ranges := by
  rw [step, rangesAt]
  cases t.tables <;> rfl

theorem curatedRanges_eq (kind : RarityKind) (height : Int) :
    curatedRanges kind height = curatedTable.rangesAt kind height := rfl

variable {kind : RarityKind} {chunks : List Chunk} {buckets : Buckets} {satsPerBlock : Int}

/-- A table of one kind gives the intervals of a height, whatever it was asked before. -/
theorem RangeTable.rangesAt_after (h : bucketByHeight satsPerBlock chunks = .ok buckets)
    (steps : List Step) (height : Int) :
    ((ofSources [(kind, chunks)] satsPerBlock).after steps).rangesAt kind height =
      .ok (chunksAt satsPerBlock chunks height) := by
  have hkind : ([(kind, chunks.map Chunk.bounds)].map (·.1)).Nodup := List.nodup_singleton kind
  have hfresh : (ofSources [(kind, chunks)] satsPerBlock).Serves satsPerBlock
      [(kind, chunks.map Chunk.bounds)] := serves_ofWritten hkind satsPerBlock
  have htables := (hfresh.after steps).tables_eq.trans
    (hfresh.tables_eq.symm.trans (tables_ofSources h))
  rw [rangesAt, htables, ← bucketByHeight_at h]
  exact find_single kind buckets height

/-! ### Intervals in early blocks -/

/-- A chunk lies inside one block, counted as if all were of the size of the first ones, and in the
first epoch. -/
def Chunk.LiesInEarlyBlock (c : Chunk) : Prop :=
  c.lo.fdiv initialSubsidy = (c.hi - 1).fdiv initialSubsidy ∧ c.hi ≤ epochStart 1

/-- **The rule of a kind whose intervals lie in early blocks clips all of them.** -/
theorem evaluateCurated_of_bucketed (h : bucketByHeight initialSubsidy chunks = .ok buckets)
    (hchunks : ∀ c ∈ chunks, c.LiesInEarlyBlock) {q : QueryRange} (hq : q.OneBlock)
    (steps : List RangeTable.Step) :
    evaluateCurated kind
      (((RangeTable.ofSources [(kind, chunks)] initialSubsidy).after steps).rangesAt kind) q =
      .ok [⟨kind, Chunk.intersect q.start q.stop chunks⟩] := by
  have hearly : ∀ c ∈ chunks, c.InEarlyBlock := fun c hc =>
    ⟨lo_lt_hi_of_bucketed h c hc, (hchunks c hc).1, (hchunks c hc).2⟩
  rw [evaluateCurated, RangeTable.rangesAt_after h, ← hq.intersect_chunksAt hearly]
  rfl

theorem pizzaRanges_liesInEarlyBlock : ∀ c ∈ pizzaRanges, c.LiesInEarlyBlock := fun c hc =>
  ⟨(pizzaRanges_inEarlyBlock c hc).one_block, (pizzaRanges_inEarlyBlock c hc).hi_le⟩

/-- **Looking up agrees with scanning.** If the intervals of a kind are bucketed, and each of them
lies inside one block of the first epoch, then on every range of one block, be it of a later epoch,
the rule of the kind gives what clipping all of the intervals gives, in the same order, whatever the
table was asked before. The pizza intervals are bucketed and lie so, and the rule of the pizza kind
clips all of them. -/
theorem evaluateCurated_eq_scan :
    (∀ (kind : RarityKind) (chunks : List Chunk),
      (∃ buckets, bucketByHeight initialSubsidy chunks = .ok buckets) →
      (∀ c ∈ chunks, c.LiesInEarlyBlock) →
      ∀ start stop q, QueryRange.of start stop = .ok q → ∀ steps,
        evaluateCurated kind
          (((RangeTable.ofSources [(kind, chunks)] initialSubsidy).after steps).rangesAt kind) q =
          .ok [⟨kind, Chunk.intersect start stop chunks⟩]) ∧
    (∃ buckets, bucketByHeight initialSubsidy pizzaRanges = .ok buckets) ∧
    (∀ c ∈ pizzaRanges, c.LiesInEarlyBlock) ∧
    ∀ start stop q, QueryRange.of start stop = .ok q →
      evaluate .pizza q = .ok [⟨.pizza, Chunk.intersect start stop pizzaRanges⟩] := by
  refine ⟨fun kind chunks hbucketed hchunks start stop q hof steps => ?_, pizzaRanges_bucketed,
    pizzaRanges_liesInEarlyBlock, fun start stop q hof => ?_⟩
  · obtain ⟨buckets, hbuckets⟩ := hbucketed
    obtain ⟨rfl, rfl, hq⟩ := QueryRange.of_eq_ok_iff.mp hof
    exact evaluateCurated_of_bucketed hbuckets hchunks hq steps
  · obtain ⟨buckets, hbuckets⟩ := pizzaRanges_bucketed
    obtain ⟨rfl, rfl, hq⟩ := QueryRange.of_eq_ok_iff.mp hof
    show evaluateCurated .pizza (curatedRanges .pizza) q = _
    rw [funext (curatedRanges_eq .pizza)]
    exact evaluateCurated_of_bucketed hbuckets pizzaRanges_liesInEarlyBlock hq []

/-- Two intervals of block 9, and one of block 10 between them. -/
def aroundBlock10 : List Chunk :=
  [⟨45000000000, 45000000100⟩, ⟨50000000007, 50000000009⟩, ⟨45000000200, 45000000300⟩]

/-- A range of block 9 meets the first and the last of the intervals, after a lookup that failed. -/
theorem evaluateCurated_eq_scan_in_block9 :
    evaluateCurated .vintage
      (((RangeTable.ofSources [(.vintage, aroundBlock10)] initialSubsidy).after
        [.rangesAt .pizza 9]).rangesAt .vintage) ⟨45000000050, 45000000250, 9⟩ =
      .ok [⟨.vintage, [⟨45000000050, 45000000100⟩, ⟨45000000200, 45000000250⟩]⟩] := by
  obtain ⟨hscan, -⟩ := evaluateCurated_eq_scan
  have hlies : ∀ c ∈ aroundBlock10, c.LiesInEarlyBlock := by
    simp only [aroundBlock10, List.forall_mem_cons]
    exact ⟨⟨rfl, by decide⟩, ⟨rfl, by decide⟩, ⟨rfl, by decide⟩, List.forall_mem_nil _⟩
  exact hscan .vintage aroundBlock10 ⟨_, rfl⟩ hlies 45000000050 45000000250 _ rfl
    [.rangesAt .pizza 9]

end RareSats
