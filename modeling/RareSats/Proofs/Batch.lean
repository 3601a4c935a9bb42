/-
# Batches and their parts

A batch is resolved as its parts are, one after the other: the second part is begun
only if the first one succeeds, and the results of both stand in their order. So a
batch gives for each reference what the reference gives alone, and fails as its
first failing reference does. The one exception is the batch without a reference:
against a source that does not track sats it fails although no reference does.

Key definition: `resolveOne`.
Key theorems: `resolveAll_append`, `resolveAll_eq_mapM`, `batch_of_references`.
-/
import RareSats.Proofs.Resolve

namespace RareSats

variable {source : SatSource}

/-- Resolving one reference against a source that must track sats. -/
def resolveOne (source : SatSource) (reference : Text) : Traced ReferenceResult :=
  if source.tracksSats then resolve source reference
  else Traced.lift (.error .satsNotTracked)

theorem resolveAll_of_tracked (h : source.tracksSats = true) (references : List Text) :
    resolveAll source references = references.mapM (resolve source) := by
  rw [resolveAll, if_pos h]

theorem resolveAll_of_untracked (h : source.tracksSats = false) (references : List Text) :
    resolveAll source references = ⟨[], .error .satsNotTracked⟩ := by
  rw [resolveAll, if_neg (by rw [h]; decide)]
  rfl

theorem resolveAll_append (source : SatSource) (xs ys : List Text) :
    resolveAll source (xs ++ ys) = (resolveAll source xs).append (resolveAll source ys) := by
  cases htracks : source.tracksSats with
  | true =>
    simp only [resolveAll_of_tracked htracks]
    exact Traced.mapM_append (resolve source) xs ys
  | false =>
    simp only [resolveAll_of_untracked htracks]
    rfl

/-- A batch is resolved reference by reference, unless it is refused without one. -/
theorem resolveAll_eq_mapM {references : List Text}
    (h : references ≠ [] ∨ source.tracksSats = true) :
    resolveAll source references = references.mapM (resolveOne source) := by
  cases htracks : source.tracksSats with
  | true =>
    have hone : resolveOne source = resolve source := by
      funext reference
      rw [resolveOne, if_pos htracks]
    rw [resolveAll_of_tracked htracks, hone]
  | false =>
    obtain ⟨first, rest, rfl⟩ : ∃ first rest, references = first :: rest := by
      refine List.exists_cons_of_ne_nil (h.resolve_right ?_)
      rw [htracks]
      decide
    have hone : (resolveOne source first) = ⟨[], .error .satsNotTracked⟩ := by
      rw [resolveOne, if_neg (by rw [htracks]; decide)]
      rfl
    rw [resolveAll_of_untracked htracks, List.mapM_cons, Traced.bind_of_error (by rw [hone]), hone]

/-! ### References alone -/

theorem resolveAll_singleton (source : SatSource) (reference : Text) :
    resolveAll source [reference] = do
      let result ← resolveOne source reference
      return [result] := by
  rw [resolveAll_eq_mapM (Or.inl (List.cons_ne_nil _ _)), List.mapM_cons]
  simp only [List.mapM_nil, pure_bind]

theorem singleton_eq_ok_iff {reference : Text} {result : ReferenceResult} :
    (resolveAll source [reference]).outcome = .ok [result] ↔
      (resolveOne source reference).outcome = .ok result := by
  simp only [resolveAll_singleton, Traced.outcome_bind_eq_ok_iff, Traced.outcome_pure,
    Except.ok.injEq, List.cons.injEq, and_true, exists_eq_right]

theorem singleton_eq_error_iff {reference : Text} {e : Error} :
    (resolveAll source [reference]).outcome = .error e ↔
      (resolveOne source reference).outcome = .error e := by
  rw [resolveAll_singleton, Traced.outcome_bind_eq_error_iff]
  refine or_iff_left ?_
  rintro ⟨result, -, h⟩
  cases h

theorem reference_of_resolveOne {reference : Text} {result : ReferenceResult}
    (h : (resolveOne source reference).outcome = .ok result) : result.reference = reference := by
  rw [resolveOne] at h
  split at h
  · exact (resolve_eq_ok_iff.mp h).1
  · cases h

/-- **A batch is its references, one after the other.** The second part of a batch is resolved
after the first one, and only if that succeeds. A batch succeeds exactly if each reference does
alone, with the results that the references have alone, each under its reference as given; it fails
exactly as the first reference that fails alone. Only a batch without a reference is refused by a
source that does not track sats although no reference fails. -/
theorem batch_of_references (source : SatSource) :
    (∀ xs ys, resolveAll source (xs ++ ys) = (resolveAll source xs).append (resolveAll source ys)) ∧
    (∀ references, references ≠ [] ∨ source.tracksSats = true →
      ((∃ results, (resolveAll source references).outcome = .ok results) ↔
        ∀ r ∈ references, ∃ result, (resolveAll source [r]).outcome = .ok [result]) ∧
      (∀ results, (resolveAll source references).outcome = .ok results ↔
        List.Forall₂ (fun r result => result.reference = r ∧
          (resolveAll source [r]).outcome = .ok [result]) references results) ∧
      ∀ e, (resolveAll source references).outcome = .error e ↔
        ∃ before r after, references = before ++ r :: after ∧
          (∀ b ∈ before, ∃ result, (resolveAll source [b]).outcome = .ok [result]) ∧
          (resolveAll source [r]).outcome = .error e) ∧
    (source.tracksSats = false → resolveAll source [] = ⟨[], .error .satsNotTracked⟩) := by
  refine ⟨resolveAll_append source, fun references h => ?_, fun h => resolveAll_of_untracked h []⟩
  rw [resolveAll_eq_mapM h]
  simp only [singleton_eq_ok_iff, singleton_eq_error_iff]
  refine ⟨Traced.exists_outcome_mapM_iff, fun results => ?_, fun e => ?_⟩
  · rw [Traced.outcome_mapM_eq_ok_iff]
    have hreference : ∀ r result, (resolveOne source r).outcome = .ok result ↔
        result.reference = r ∧ (resolveOne source r).outcome = .ok result :=
      fun r result => ⟨fun h => ⟨reference_of_resolveOne h, h⟩, fun h => h.2⟩
    simp only [← hreference]
  · exact Traced.outcome_mapM_eq_error_iff

/-- A source that does not track sats refuses even a batch without a reference. -/
theorem empty_batch_refused :
    ¬ ∀ (index : SatIndex) (references : List Text),
      (∃ results, (resolveAll index.source references).outcome = .ok results) ↔
        ∀ r ∈ references, ∃ result, (resolveAll index.source [r]).outcome = .ok [result] := by
  intro h
  have hempty := (h ⟨false, [], []⟩ []).mpr fun r hr => absurd hr List.not_mem_nil
  obtain ⟨results, hresults⟩ := hempty
  cases hresults

/-- A reference twice in a batch, and a batch without a reference. -/
theorem batch_of_a_reference_twice :
    (∃ results, (resolveAll twoBlocksIndex.source
      [twoBlocksReference, twoBlocksReference]).outcome = .ok results) ∧
    resolveAll (SatIndex.source ⟨false, [], []⟩) [] = ⟨[], .error .satsNotTracked⟩ := by
  have hbatch := (batch_of_references twoBlocksIndex.source).2.1
    [twoBlocksReference, twoBlocksReference] (Or.inr rfl)
  refine ⟨hbatch.1.mpr fun r hr => ?_, (batch_of_references _).2.2 rfl⟩
  have hr' : r = twoBlocksReference := by simpa using hr
  rw [hr']
  exact twoBlocks_resolved

end RareSats
