/-
# Curated intervals and blocks

The curated intervals of a kind are looked up by the height of a range. A curated
interval lies inside one block of the first epoch, whose height is the quotient by
which it is bucketed; so it meets ranges of that height only, and clipping the
intervals of the height gives what clipping all intervals would
(`QueryRange.OneBlock.intersect_chunksAt`).

Key definition: `Chunk.InEarlyBlock`.
Key theorems: `QueryRange.OneBlock.intersect_chunksAt`, `pizzaRanges_inEarlyBlock`,
`curatedRanges_pizza`.
-/
import Mathlib.Data.List.Chain
import RareSats.Curated.Pizza
import RareSats.Proofs.Bucket
import RareSats.Proofs.Chunk
import RareSats.Proofs.QueryRange

namespace RareSats

/-! ### Lookups in a table of one kind -/

theorem RangeTable.tables_ofSources {kind : RarityKind} {chunks : List Chunk} {satsPerBlock : Int}
    {buckets : Buckets} (h : bucketByHeight satsPerBlock chunks = .ok buckets) :
    (ofSources [(kind, chunks)] satsPerBlock).tables = .ok [(kind, buckets)] := by
  show build satsPerBlock [(kind, chunks.map Chunk.bounds)] = _
  rw [build, bucketWritten_bounds, h]
  rfl

theorem RangeTable.find_single (kind : RarityKind) (buckets : Buckets) (height : Int) :
    find [(kind, buckets)] kind height = .ok (buckets.at height) := by
  simp [find]

/-! ### Intervals inside of one block -/

/-- A chunk holds a sat and lies inside one block, which is one of the first epoch. -/
structure Chunk.InEarlyBlock (c : Chunk) : Prop where
  lo_lt_hi : c.lo < c.hi
  one_block : c.lo.fdiv initialSubsidy = (c.hi - 1).fdiv initialSubsidy
  hi_le : c.hi ≤ epochStart 1

/-- Sats of a chunk in an early block are of the height by which the chunk is bucketed. -/
theorem Chunk.InEarlyBlock.height_eq {c : Chunk} (hc : c.InEarlyBlock) {s : Sat}
    (hs : c.Holds s.index) : (s.height : Int) = c.lo.fdiv initialSubsidy := by
  obtain ⟨hlo, hhi⟩ := hs
  have hfirst := hc.hi_le
  have hone : epochStart 1 = halvingInterval * initialSubsidy := by decide
  have hdiv : s.index / initialSubsidy < halvingInterval := by
    rw [Nat.div_lt_iff_lt_mul (by decide)]
    omega
  have hheight := (Sat.height_eq_iff_div hdiv).mpr rfl
  have hpos : (0 : Int) ≤ initialSubsidy := Int.natCast_nonneg _
  have hblock := hc.one_block
  rw [Int.fdiv_eq_ediv_of_nonneg _ hpos, Int.fdiv_eq_ediv_of_nonneg _ hpos] at hblock
  have hge : c.lo / initialSubsidy ≤ s.index / initialSubsidy := Int.ediv_le_ediv (by decide) hlo
  have hle : (s.index : Int) / initialSubsidy ≤ (c.hi - 1) / initialSubsidy :=
    Int.ediv_le_ediv (by decide) (by omega)
  rw [Int.fdiv_eq_ediv_of_nonneg _ hpos, hheight, Int.natCast_ediv]
  omega

theorem QueryRange.OneBlock.clip?_eq_none {q : QueryRange} (hq : q.OneBlock) {c : Chunk}
    (hc : c.InEarlyBlock) (hne : c.lo.fdiv initialSubsidy ≠ q.height) :
    c.clip? q.start q.stop = none := by
  unfold Chunk.clip?
  by_cases hapart : q.start ≥ c.hi ∨ q.stop ≤ c.lo
  · exact if_pos hapart
  · -- the later one of the two starts is a sat of both
    have hlt := hq.start_lt_stop
    have hlt' := hc.lo_lt_hi
    obtain ⟨s, hs, hheight⟩ := hq.exists_sat (n := max q.start c.lo) (by omega) (by omega)
    have hbucket := hc.height_eq (s := s) ⟨by omega, by omega⟩
    exact absurd (hbucket.symm.trans hheight.symm) hne

/-- **The intervals of its height are all that a range meets.** -/
theorem QueryRange.OneBlock.intersect_chunksAt {q : QueryRange} (hq : q.OneBlock)
    {chunks : List Chunk} (hchunks : ∀ c ∈ chunks, c.InEarlyBlock) :
    Chunk.intersect q.start q.stop (chunksAt initialSubsidy chunks q.height) =
      Chunk.intersect q.start q.stop chunks := by
  unfold Chunk.intersect chunksAt
  rw [List.filterMap_filter]
  refine List.filterMap_congr fun c hc => ?_
  split
  · rfl
  · rename_i hne
    exact (hq.clip?_eq_none (hchunks c hc) (by simpa using hne)).symm

/-! ### The pizza intervals -/

/-- One pizza interval ends before the next one starts, which holds a sat. -/
def BoundsFollow (a b : Nat × Nat) : Prop :=
  a.2 ≤ b.1 ∧ b.1 < b.2

instance (a b : Nat × Nat) : Decidable (BoundsFollow a b) :=
  inferInstanceAs (Decidable (_ ∧ _))

instance : Trans BoundsFollow BoundsFollow BoundsFollow where
  trans hab hbc := ⟨Nat.le_trans hab.1 (Nat.le_trans (Nat.le_of_lt hab.2) hbc.1), hbc.2⟩

theorem pizzaBounds_isChain : pizzaBounds.IsChain BoundsFollow := by decide +kernel

theorem pizzaBounds_inBlock : ∀ b ∈ pizzaBounds,
    b.1 < b.2 ∧ b.1 / initialSubsidy = (b.2 - 1) / initialSubsidy ∧ b.2 ≤ epochStart 1 := by
  decide +kernel

/-- No pizza interval reaches over the end of its block. -/
theorem pizzaRanges_inEarlyBlock : ∀ c ∈ pizzaRanges, c.InEarlyBlock := by
  intro c hc
  obtain ⟨b, hb, rfl⟩ := List.mem_map.mp hc
  obtain ⟨hlt, hblock, hfirst⟩ := pizzaBounds_inBlock b hb
  have hpos : (0 : Int) ≤ initialSubsidy := Int.natCast_nonneg _
  refine ⟨by simp only; omega, ?_, by simp only; omega⟩
  rw [Int.fdiv_eq_ediv_of_nonneg _ hpos, Int.fdiv_eq_ediv_of_nonneg _ hpos]
  have hcast : (b.2 : Int) - 1 = (b.2 - 1 : Nat) := by omega
  simp only [hcast, ← Int.natCast_ediv]
  rw [hblock]

theorem pizzaRanges_before : pizzaRanges.Pairwise Chunk.Before := by
  have hpairs := List.isChain_iff_pairwise.mp pizzaBounds_isChain
  exact List.pairwise_map.mpr (hpairs.imp fun hfollow => Int.ofNat_le.mpr hfollow.1)

theorem pizzaRanges_follows : pizzaRanges.Pairwise (Follows initialSubsidy) := by
  refine pizzaRanges_before.imp fun hbefore => ?_
  exact fun _ => hbefore

theorem pizzaRanges_bucketed : ∃ buckets, bucketByHeight initialSubsidy pizzaRanges = .ok buckets :=
  bucketByHeight_ok (by decide) (fun c hc => (pizzaRanges_inEarlyBlock c hc).lo_lt_hi)
    pizzaRanges_follows

theorem curatedRanges_pizza (height : Int) :
    curatedRanges .pizza height = .ok (chunksAt initialSubsidy pizzaRanges height) := by
  obtain ⟨buckets, hbuckets⟩ := pizzaRanges_bucketed
  have htables : curatedBuckets = .ok [(.pizza, buckets)] := RangeTable.tables_ofSources hbuckets
  unfold curatedRanges
  rw [htables, ← bucketByHeight_at hbuckets height]
  exact RangeTable.find_single .pizza buckets height

end RareSats
