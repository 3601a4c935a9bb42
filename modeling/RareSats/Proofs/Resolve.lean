/-
# What a result tells

A reference is resolved exactly if it is an outpoint that the source knows, every
range of the output is one of one block, and the hashes of the blocks are looked up
without an error (`exists_resolve_iff`); then its named sats are described too. The
named sats of a result are all named sats among all sats of the output, each with
its own metadata (`named_sats_of_results`).

Key definition: `SatSource.Answers`.
Key theorems: `resolve_eq_ok_iff`, `exists_resolve_iff`, `named_sats_of_results`.
-/
import RareSats.Proofs.NamedSats
import RareSats.Proofs.Report
import RareSats.Proofs.Traced
import RareSats.Query.Resolve

namespace RareSats

theorem outcomeFor_eq_ok_iff {α : Type} {reference : Text} {outcome : Except Error α} {a : α} :
    outcomeFor reference outcome = .ok a ↔ outcome = .ok a := by
  cases outcome <;> simp [outcomeFor]

theorem resolveRange_eq_ok_iff {source : SatSource} {reference : Text} {c : Chunk}
    {r : RangeReport} : (resolveRange source reference c).outcome = .ok r ↔
      ∃ q rarities hash, QueryRange.of c.lo c.hi = .ok q ∧ reportOf q = .ok rarities ∧
        source.blockHash q.height = .ok hash ∧ r = ⟨c.lo, c.hi, rarities, q.height, hash⟩ := by
  simp only [resolveRange, Traced.outcome_bind_eq_ok_iff, Traced.outcome_pure, Traced.lift,
    Traced.ask, outcomeFor_eq_ok_iff, Except.ok.injEq]
  refine ⟨fun h => ?_, fun h => ?_⟩
  · obtain ⟨q, hof, rarities, hreport, hash, hhash, rfl⟩ := h
    exact ⟨q, rarities, hash, hof, hreport, hhash, rfl⟩
  · obtain ⟨q, rarities, hash, hof, hreport, hhash, rfl⟩ := h
    exact ⟨q, hof, rarities, hreport, hash, hhash, rfl⟩

/-- Only the bounds and the hash of the block can keep a range from its report. -/
theorem exists_resolveRange_iff {source : SatSource} {reference : Text} {c : Chunk} :
    (∃ r, (resolveRange source reference c).outcome = .ok r) ↔
      ∃ q hash, QueryRange.of c.lo c.hi = .ok q ∧ source.blockHash q.height = .ok hash := by
  simp only [resolveRange_eq_ok_iff]
  refine ⟨fun h => ?_, fun h => ?_⟩
  · obtain ⟨r, q, rarities, hash, hof, -, hhash, -⟩ := h
    exact ⟨q, hash, hof, hhash⟩
  · obtain ⟨q, hash, hof, hhash⟩ := h
    obtain ⟨-, -, hq⟩ := QueryRange.of_eq_ok_iff.mp hof
    exact ⟨_, q, _, hash, hof, reportOf_eq hq, hhash, rfl⟩

theorem describe_eq_ok_iff {named : NamedSat} {d : DescribedSat} :
    (describe named).outcome = .ok d ↔ d.named = named ∧ metadataAt named.sat = .ok d.metadata := by
  simp only [describe, Traced.outcome_bind_eq_ok_iff, Traced.outcome_pure, Traced.ask,
    Except.ok.injEq]
  refine ⟨fun h => ?_, fun h => ?_⟩
  · obtain ⟨metadata, hmetadata, rfl⟩ := h
    exact ⟨rfl, hmetadata⟩
  · obtain ⟨rfl, hmetadata⟩ := h
    exact ⟨d.metadata, hmetadata, rfl⟩

/-- Every stage of resolving a reference must succeed. -/
theorem resolve_eq_ok_iff {source : SatSource} {reference : Text} {result : ReferenceResult} :
    (resolve source reference).outcome = .ok result ↔
      result.reference = reference ∧ ∃ outpoint chunks named,
        OutPoint.parse reference = .ok outpoint ∧ source.listRanges outpoint = .ok chunks ∧
        (chunks.mapM (resolveRange source reference)).outcome = .ok result.ranges ∧
        namedSats chunks = .ok named ∧ (named.mapM describe).outcome = .ok result.namedSats := by
  simp only [resolve, Traced.outcome_bind_eq_ok_iff, Traced.outcome_pure, Traced.lift, Traced.ask,
    outcomeFor_eq_ok_iff, Except.ok.injEq]
  refine ⟨fun h => ?_, fun h => ?_⟩
  · obtain ⟨outpoint, hparse, chunks, hlist, ranges, hranges, named, hnamed, described, hdescribed,
      rfl⟩ := h
    exact ⟨rfl, outpoint, chunks, named, hparse, hlist, hranges, hnamed, hdescribed⟩
  · obtain ⟨rfl, outpoint, chunks, named, hparse, hlist, hranges, hnamed, hdescribed⟩ := h
    exact ⟨outpoint, hparse, chunks, hlist, _, hranges, named, hnamed, _, hdescribed, rfl⟩

theorem valid_of_resolved {source : SatSource} {reference : Text} {chunks : List Chunk}
    {ranges : List RangeReport}
    (h : (chunks.mapM (resolveRange source reference)).outcome = .ok ranges) :
    ∀ c ∈ chunks, ∃ q, QueryRange.of c.lo c.hi = .ok q := by
  intro c hc
  have hranges := Traced.exists_outcome_mapM_iff.mp ⟨ranges, h⟩
  obtain ⟨q, -, hof, -⟩ := exists_resolveRange_iff.mp (hranges c hc)
  exact ⟨q, hof⟩

/-- The reference is an outpoint that the source knows, every range of the output is one of one
block, and the hashes of the blocks are looked up without an error. -/
def SatSource.Answers (source : SatSource) (reference : Text) : Prop :=
  ∃ outpoint chunks, OutPoint.parse reference = .ok outpoint ∧
    source.listRanges outpoint = .ok chunks ∧
    ∀ c ∈ chunks, ∃ q hash, QueryRange.of c.lo c.hi = .ok q ∧ source.blockHash q.height = .ok hash

/-- **A reference is resolved exactly if the source answers it.** No later stage can fail. -/
theorem exists_resolve_iff {source : SatSource} {reference : Text} :
    (∃ result, (resolve source reference).outcome = .ok result) ↔ source.Answers reference := by
  simp only [resolve_eq_ok_iff, SatSource.Answers]
  refine ⟨fun h => ?_, fun h => ?_⟩
  · obtain ⟨result, -, outpoint, chunks, named, hparse, hlist, hranges, -, -⟩ := h
    refine ⟨outpoint, chunks, hparse, hlist, fun c hc => ?_⟩
    exact exists_resolveRange_iff.mp (Traced.exists_outcome_mapM_iff.mp ⟨_, hranges⟩ c hc)
  · obtain ⟨outpoint, chunks, hparse, hlist, hchunks⟩ := h
    obtain ⟨ranges, hranges⟩ := Traced.exists_outcome_mapM_iff.mpr fun c hc =>
      exists_resolveRange_iff.mpr (hchunks c hc)
    obtain ⟨described, hdescribed⟩ : ∃ described,
        ((everyNamedSat chunks).mapM describe).outcome = .ok described := by
      refine Traced.exists_outcome_mapM_iff.mpr fun named hnamed => ?_
      obtain ⟨s, hs⟩ := exists_of_mem_everyNamedSat hnamed
      exact ⟨⟨named, s.metadata⟩, describe_eq_ok_iff.mpr ⟨rfl, by rw [metadataAt, hs]; rfl⟩⟩
    exact ⟨⟨reference, ranges, described⟩, rfl, outpoint, chunks, _, hparse, hlist, hranges,
      namedSats_eq (valid_of_resolved hranges), hdescribed⟩

theorem described_of_named {named : List NamedSat} {described : List DescribedSat}
    (h : (named.mapM describe).outcome = .ok described) :
    described.map (·.named) = named ∧
      ∀ d ∈ described, metadataAt d.named.sat = .ok d.metadata := by
  rw [Traced.outcome_mapM_eq_ok_iff] at h
  induction h with
  | nil => exact ⟨rfl, fun d hd => absurd hd List.not_mem_nil⟩
  | cons hfirst _ ih =>
    obtain ⟨hnamed, hmetadata⟩ := describe_eq_ok_iff.mp hfirst
    refine ⟨by rw [List.map_cons, hnamed, ih.1], fun d hd => ?_⟩
    rcases List.mem_cons.mp hd with rfl | hd
    · rwa [hnamed]
    · exact ih.2 d hd

theorem resolveAll_eq_ok_iff {source : SatSource} {references : List Text}
    {results : List ReferenceResult} : (resolveAll source references).outcome = .ok results ↔
      source.tracksSats = true ∧
        List.Forall₂ (fun r x => (resolve source r).outcome = .ok x) references results := by
  rw [← Traced.outcome_mapM_eq_ok_iff, resolveAll]
  split
  · rename_i htracks
    exact ⟨fun h => ⟨htracks, h⟩, fun h => h.2⟩
  · rename_i htracks
    exact iff_of_false (fun h => by cases h) (fun h => htracks h.1)

/-- **Named sats are those of an exhaustive walk.** In ranges of one block each, looking at the
first sats finds the same named sats, with the same numbers and in the same order, as a walk over
all sats. So the named sats of every result of a batch are all those of the ranges that the source
returned for the reference, and each one has the metadata of its own sat. -/
theorem named_sats_of_results :
    (∀ ranges : List Chunk, (∀ c ∈ ranges, ∃ q, QueryRange.of c.lo c.hi = .ok q) →
      namedSats ranges = .ok (everyNamedSat ranges)) ∧
    ∀ (source : SatSource) (references : List Text) (results : List ReferenceResult),
      (resolveAll source references).outcome = .ok results →
      List.Forall₂ (fun reference result => ∃ outpoint chunks,
        OutPoint.parse reference = .ok outpoint ∧ source.listRanges outpoint = .ok chunks ∧
        result.namedSats.map (·.named) = everyNamedSat chunks ∧
        ∀ d ∈ result.namedSats, metadataAt d.named.sat = .ok d.metadata) references results := by
  refine ⟨fun ranges h => namedSats_eq h, fun source references results h => ?_⟩
  refine (resolveAll_eq_ok_iff.mp h).2.imp fun reference result hresult => ?_
  obtain ⟨-, outpoint, chunks, named, hparse, hlist, hranges, hnamed, hdescribed⟩ :=
    resolve_eq_ok_iff.mp hresult
  obtain ⟨hsats, hmetadata⟩ := described_of_named hdescribed
  rw [namedSats_eq (valid_of_resolved hranges)] at hnamed
  cases hnamed
  exact ⟨outpoint, chunks, hparse, hlist, hsats, hmetadata⟩

/-- The first sats of two blocks. -/
def twoBlocks : List Chunk :=
  [⟨0, 3⟩, ⟨5000000000, 5000000002⟩]

/-- A reference in capital letters. -/
def twoBlocksReference : Text :=
  ⟨List.replicate 64 (.scalar 'A') ++ [.scalar ':', .scalar '7']⟩

/-- An index of one output, which holds the first sats of two blocks. -/
def twoBlocksIndex : SatIndex :=
  ⟨true, [(⟨String.ofList (List.replicate 64 'a'), 7⟩, twoBlocks)], []⟩

theorem twoBlocks_valid : ∀ c ∈ twoBlocks, ∃ q, QueryRange.of c.lo c.hi = .ok q := by
  simp only [twoBlocks, List.forall_mem_cons]
  exact ⟨⟨⟨0, 3, 0⟩, rfl⟩, ⟨⟨5000000000, 5000000002, 1⟩, rfl⟩, fun c hc => by cases hc⟩

theorem twoBlocks_resolved :
    ∃ result, (resolveAll twoBlocksIndex.source [twoBlocksReference]).outcome = .ok [result] := by
  have hanswers : twoBlocksIndex.source.Answers twoBlocksReference := by
    refine ⟨⟨String.ofList (List.replicate 64 'a'), 7⟩, twoBlocks, rfl, rfl, fun c hc => ?_⟩
    obtain ⟨q, hof⟩ := twoBlocks_valid c hc
    exact ⟨q, none, hof, rfl⟩
  obtain ⟨result, hresult⟩ := exists_resolve_iff.mpr hanswers
  exact ⟨result, resolveAll_eq_ok_iff.mpr ⟨rfl, .cons hresult .nil⟩⟩

/-- The walk over an output with ranges of two blocks, and a batch of its reference. -/
theorem named_sats_of_two_blocks :
    namedSats twoBlocks = .ok (everyNamedSat twoBlocks) ∧
    ∃ results, (resolveAll twoBlocksIndex.source [twoBlocksReference]).outcome = .ok results ∧
      List.Forall₂ (fun reference result => ∃ outpoint chunks,
        OutPoint.parse reference = .ok outpoint ∧
        twoBlocksIndex.source.listRanges outpoint = .ok chunks ∧
        result.namedSats.map (·.named) = everyNamedSat chunks ∧
        ∀ d ∈ result.namedSats, metadataAt d.named.sat = .ok d.metadata)
        [twoBlocksReference] results := by
  obtain ⟨result, h⟩ := twoBlocks_resolved
  exact ⟨named_sats_of_results.1 twoBlocks twoBlocks_valid, [result], h,
    named_sats_of_results.2 _ _ _ h⟩

end RareSats
