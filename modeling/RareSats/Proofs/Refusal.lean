/-
# Why references are not resolved

An error of a reference is that of one of its events: the reference is not read, a
lookup fails, or a range is not one of one block. The metadata of a named sat never
fails, as named sats are issued. All of these errors are for the caller, but for those
of numbers with more digits than are ever converted: the index of an output, or a bound
of a range without a sat. So a batch is resolved or refused for a reason that can be
told, unless the first of its references that is not resolved has such a number
(`tooLong_of_batch`).

Key definitions: `TooLong`, `Refusal`, `FirstUnresolved`.
Key theorems: `refusal_of_resolve`, `Refusal.tooLong_of_not_reportable`,
`error_of_batch_iff`, `tooLong_of_batch`.
-/
import RareSats.Proofs.Events
import RareSats.Proofs.OutPoint

namespace RareSats

/-- A number of a reference or of its ranges that is too long, and the error of converting it. -/
inductive TooLong (source : SatSource) (reference : Text) : Error → Prop where
  | index {count : Nat} (hlong : OutPoint.HasLongIndex reference count) :
      TooLong source reference (.tooManyDigits count)
  | range {outpoint : OutPoint} {chunks : List Chunk} {c : Chunk}
      (hparse : OutPoint.parse reference = .ok outpoint)
      (hlist : source.listRanges outpoint = .ok chunks) (hmem : c ∈ chunks)
      (hlong : QueryRange.HasLongBound c.lo c.hi) : TooLong source reference .unwritableNumber

/-- The errors that a reference may end with. -/
inductive Refusal (source : SatSource) (reference : Text) : Error → Prop where
  /-- The reference is not an outpoint. -/
  | malformed {fault : ReferenceFault}
      (hparse : OutPoint.parse reference = .error (.malformedReference reference fault)) :
      Refusal source reference (.malformedReference reference fault)
  /-- A number is too long to be converted. -/
  | tooLong {e : Error} (hlong : TooLong source reference e) : Refusal source reference e
  /-- The ranges of the output are not given. -/
  | listRanges {outpoint : OutPoint} {e : Error} (hlist : source.listRanges outpoint = .error e) :
      Refusal source reference (e.toldFor reference)
  /-- The bounds of a range are not those of one block. -/
  | range (fault : RangeFault) : Refusal source reference (.invalidRange fault)
  /-- The hash of a block is not given. -/
  | blockHash {height : Int} {e : Error} (hhash : source.blockHash height = .error e) :
      Refusal source reference (e.toldFor reference)

variable {source : SatSource} {reference : Text} {e : Error}

theorem eq_error_of_errorOf? {α : Type} {outcome : Except Error α} (h : errorOf? outcome = some e) :
    outcome = .error e := by
  cases outcome with
  | ok a => cases h
  | error e' =>
    cases h
    rfl

/-- What happens after an output is looked up is about the ranges that were listed for it. -/
theorem mem_chunkEvents_of_canonical {event : Event}
    (h : event ∈ canonicalEvents source reference) (hparse : event ≠ .parse)
    (hlist : ∀ outpoint, event ≠ .listRanges outpoint) :
    ∃ outpoint chunks, OutPoint.parse reference = .ok outpoint ∧
      source.listRanges outpoint = .ok chunks ∧ event ∈ chunkEvents chunks := by
  unfold canonicalEvents at h
  rw [List.mem_cons, or_iff_right hparse] at h
  split at h
  · cases h
  · rename_i outpoint houtpoint
    rw [List.mem_cons, or_iff_right (hlist outpoint)] at h
    split at h
    · cases h
    · rename_i chunks hchunks
      exact ⟨outpoint, chunks, houtpoint, hchunks, h⟩

theorem mem_everyNamedSat_of_metadata {n : Int}
    (h : Event.metadata n ∈ canonicalEvents source reference) :
    ∃ chunks, ∃ named ∈ everyNamedSat chunks, named.sat = n := by
  obtain ⟨-, chunks, -, -, hmem⟩ := mem_chunkEvents_of_canonical h (by simp) (by simp)
  rw [chunkEvents, List.mem_append, or_iff_right (metadata_notMem_rangeEvents chunks n)] at hmem
  obtain ⟨named, hnamed, heq⟩ := List.mem_map.mp hmem
  exact ⟨chunks, named, hnamed, Event.metadata.inj heq⟩

theorem mem_chunks_of_validate {chunks : List Chunk} {c : Chunk}
    (h : Event.validate c ∈ chunkEvents chunks) : c ∈ chunks := by
  rw [chunkEvents, List.mem_append, or_iff_left (by simp), List.mem_flatMap] at h
  obtain ⟨d, hd, hevent⟩ := h
  rw [rangeEvents, List.mem_cons] at hevent
  rcases hevent with hsame | hhash
  · cases hsame
    exact hd
  · split at hhash <;> simp at hhash

/-- What an event fails with is one of the errors that a reference may end with. -/
theorem refusal_of_failure {event : Event} (hmem : event ∈ canonicalEvents source reference)
    (h : event.failure? source reference = some e) : Refusal source reference e := by
  cases event with
  | parse =>
    have hparse := eq_error_of_errorOf? h
    rcases OutPoint.parse_error_cases hparse with ⟨fault, rfl⟩ | ⟨count, rfl, hlong⟩
    · exact .malformed hparse
    · exact .tooLong (.index hlong)
  | listRanges outpoint =>
    obtain ⟨e', he', rfl⟩ := Option.map_eq_some_iff.mp h
    exact .listRanges (eq_error_of_errorOf? he')
  | validate c =>
    rcases QueryRange.of_error_cases (eq_error_of_errorOf? h) with ⟨fault, rfl⟩ | ⟨rfl, hlong⟩
    · exact .range fault
    · obtain ⟨outpoint, chunks, hparse, hlist, hevent⟩ :=
        mem_chunkEvents_of_canonical hmem (by simp) (by simp)
      exact .tooLong (.range hparse hlist (mem_chunks_of_validate hevent) hlong)
  | blockHash height =>
    obtain ⟨e', he', rfl⟩ := Option.map_eq_some_iff.mp h
    exact .blockHash (eq_error_of_errorOf? he')
  | metadata n =>
    obtain ⟨chunks, named, hnamed, rfl⟩ := mem_everyNamedSat_of_metadata hmem
    obtain ⟨s, hs⟩ := exists_of_mem_everyNamedSat hnamed
    rw [Event.failure?, metadataAt, hs] at h
    cases h

/-- **Every error of a reference is one of these.** -/
theorem refusal_of_resolve (h : (resolve source reference).outcome = .error e) :
    Refusal source reference e := by
  have hforget : (resolve source reference).forget.outcome = .error e := by
    rw [Traced.forget_of_error h]
  rw [forget_resolve] at hforget
  rcases forall_or_first source reference (canonicalEvents source reference) with
    hnone | ⟨before, event, after, error, hevents, hbefore, hevent⟩
  · rw [performAll_of_none hnone] at hforget
    cases hforget
  · have hmem : event ∈ canonicalEvents source reference := by
      rw [hevents]
      exact List.mem_append_right _ List.mem_cons_self
    rw [hevents, performAll_of_first hbefore hevent] at hforget
    cases hforget
    exact refusal_of_failure hmem hevent

theorem Error.isReportable_toldFor (reference : Text) (e : Error) :
    (e.toldFor reference).isReportable = true := by
  unfold toldFor
  split
  · assumption
  · rfl

/-- **Only the length of a number is not told to the caller.** -/
theorem Refusal.tooLong_of_not_reportable (h : Refusal source reference e)
    (he : e.isReportable = false) : TooLong source reference e := by
  cases h with
  | tooLong hlong => exact hlong
  | malformed => cases he
  | range => cases he
  | _ =>
    rw [Error.isReportable_toldFor] at he
    cases he

/-! ### Batches -/

/-- The first reference of a batch that is not resolved. -/
structure FirstUnresolved (source : SatSource) (before : List Text) (reference : Text) (e : Error) :
    Prop where
  tracksSats : source.tracksSats = true
  before_resolved : ∀ b ∈ before, ∃ result, (resolve source b).outcome = .ok result
  outcome_eq : (resolve source reference).outcome = .error e

theorem error_of_batch_iff {references : List Text} :
    (resolveAll source references).outcome = .error e ↔
      (source.tracksSats = false ∧ e = .satsNotTracked) ∨
      ∃ before reference after, references = before ++ reference :: after ∧
        FirstUnresolved source before reference e := by
  cases htracks : source.tracksSats with
  | false =>
    rw [resolveAll_of_untracked htracks]
    refine ⟨fun h => ?_, fun h => ?_⟩
    · cases h
      exact Or.inl ⟨rfl, rfl⟩
    · rcases h with ⟨-, rfl⟩ | ⟨_, _, _, -, hfirst⟩
      · rfl
      · exact absurd (htracks.symm.trans hfirst.tracksSats) Bool.false_ne_true
  | true =>
    rw [resolveAll_of_tracked htracks, Traced.outcome_mapM_eq_error_iff]
    refine ⟨?_, ?_⟩
    · rintro ⟨before, reference, after, hsplit, hbefore, hreference⟩
      exact Or.inr ⟨before, reference, after, hsplit, htracks, hbefore, hreference⟩
    · rintro (⟨h, -⟩ | ⟨before, reference, after, hsplit, hfirst⟩)
      · cases h
      · exact ⟨before, reference, after, hsplit, hfirst.before_resolved, hfirst.outcome_eq⟩

theorem resolve_of_parse_error (h : OutPoint.parse reference = .error e) :
    (resolve source reference).outcome = .error e := by
  have hparse : (Traced.lift (OutPoint.parse reference)).outcome = .error e := h
  rw [resolve, Traced.bind_of_error hparse]

/-- **A batch ends for a reason that is told, unless a number is too long.** -/
theorem tooLong_of_batch {references : List Text}
    (h : (resolveAll source references).outcome = .error e) (he : e.isReportable = false) :
    ∃ before reference after, references = before ++ reference :: after ∧
      TooLong source reference e ∧ FirstUnresolved source before reference e := by
  rcases error_of_batch_iff.mp h with ⟨-, rfl⟩ | ⟨before, reference, after, hsplit, hfirst⟩
  · cases he
  · have hlong := (refusal_of_resolve hfirst.outcome_eq).tooLong_of_not_reportable he
    exact ⟨before, reference, after, hsplit, hlong, hfirst⟩

end RareSats
