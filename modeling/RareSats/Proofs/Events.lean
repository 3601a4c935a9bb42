/-
# The order of events

Resolving a reference is a sequence of events: the reference is read, its ranges
are listed, each range is validated before the hash of its block is looked up, and
at last each named sat gets its metadata. Apart from its value, resolving a
reference is performing these events one after the other up to the first one that
fails (`forget_resolve`). So the lookups are those of a prefix of the sequence, and
the error is that of its last event (`events_of_reference`). For a range that is not valid
it is a fault of the range, unless a bound of it is too long to be written
(`untold_long_range`).

Key definitions: `Event`, `Event.failure?`, `canonicalEvents`, `performAll`.
Key theorems: `performAll_of_first`, `forget_resolve`, `events_of_reference`.
-/
import RareSats.Proofs.Batch

namespace RareSats

/-- What happens when a reference is resolved. -/
inductive Event where
  | parse
  | listRanges (outpoint : OutPoint)
  | validate (c : Chunk)
  | blockHash (height : Int)
  | metadata (sat : Int)
deriving DecidableEq, Repr

/-- How a failure of the index is told to the caller: as it is, or against the reference. -/
def Error.toldFor (reference : Text) (e : Error) : Error :=
  if e.isReportable then e else .lookupFailed reference e.message

/-- The error of an outcome, if it has one. -/
def errorOf? {α : Type} : Except Error α → Option Error
  | .ok _ => none
  | .error e => some e

theorem errorOf?_eq_none_iff {α : Type} {outcome : Except Error α} :
    errorOf? outcome = none ↔ ∃ a, outcome = .ok a := by
  cases outcome <;> simp [errorOf?]

namespace Event

/-- The lookup that an event makes, if it makes one. -/
def lookup? : Event → Option Lookup
  | .listRanges outpoint => some (.listRanges outpoint)
  | .blockHash height => some (.blockHash height)
  | .metadata sat => some (.metadata sat)
  | .parse | .validate _ => none

/-- The error that an event ends with for a reference, if it fails. -/
def failure? (source : SatSource) (reference : Text) : Event → Option Error
  | .parse => errorOf? (OutPoint.parse reference)
  | .listRanges outpoint => (errorOf? (source.listRanges outpoint)).map (Error.toldFor reference)
  | .validate c => errorOf? (QueryRange.of c.lo c.hi)
  | .blockHash height => (errorOf? (source.blockHash height)).map (Error.toldFor reference)
  | .metadata sat => errorOf? (metadataAt sat)

/-- An event as a computation without a value. -/
def perform (source : SatSource) (reference : Text) (e : Event) : Traced Unit where
  lookups := e.lookup?.toList
  outcome := match e.failure? source reference with
    | none => .ok ()
    | some error => .error error

end Event

/-- The events of one range. The block of a range that is not valid is unknown. -/
def rangeEvents (c : Chunk) : List Event :=
  .validate c :: match QueryRange.of c.lo c.hi with
    | .ok q => [.blockHash q.height]
    | .error _ => []

/-- The events of an output with known ranges: those of the ranges, then those of the named sats. -/
def chunkEvents (chunks : List Chunk) : List Event :=
  chunks.flatMap rangeEvents ++ (everyNamedSat chunks).map fun named => .metadata named.sat

/-- All events that a reference can lead to, in their order. -/
def canonicalEvents (source : SatSource) (reference : Text) : List Event :=
  .parse :: match OutPoint.parse reference with
    | .error _ => []
    | .ok outpoint => .listRanges outpoint :: match source.listRanges outpoint with
      | .error _ => []
      | .ok chunks => chunkEvents chunks

/-- Events one after the other, up to the first one that fails. -/
def performAll (source : SatSource) (reference : Text) (events : List Event) : Traced Unit :=
  forM events (Event.perform source reference)

variable {source : SatSource} {reference : Text}

/-! ### Performing events -/

theorem Event.perform_of_none {e : Event} (h : e.failure? source reference = none) :
    e.perform source reference = ⟨e.lookup?.toList, .ok ()⟩ := by
  rw [perform, h]

theorem Event.perform_of_some {e : Event} {error : Error}
    (h : e.failure? source reference = some error) :
    e.perform source reference = ⟨e.lookup?.toList, .error error⟩ := by
  rw [perform, h]

theorem performAll_nil : performAll source reference [] = pure () := rfl

theorem performAll_cons (e : Event) (rest : List Event) : performAll source reference (e :: rest) =
    e.perform source reference >>= fun _ => performAll source reference rest := by
  rw [performAll, List.forM_cons]
  rfl

theorem performAll_append (first rest : List Event) :
    performAll source reference (first ++ rest) =
      performAll source reference first >>= fun _ => performAll source reference rest := by
  rw [performAll, List.forM_append]
  rfl

theorem performAll_of_none {events : List Event}
    (h : ∀ e ∈ events, e.failure? source reference = none) :
    performAll source reference events = ⟨events.filterMap Event.lookup?, .ok ()⟩ := by
  induction events with
  | nil => rfl
  | cons e rest ih =>
    rw [List.forall_mem_cons] at h
    have hfirst := Event.perform_of_none h.1
    rw [performAll_cons, Traced.bind_of_ok (by rw [hfirst]), hfirst, ih h.2]
    cases hlookup : e.lookup? <;> simp [hlookup]

/-- Nothing is looked up after the first event that fails. -/
theorem performAll_of_first {before after : List Event} {e : Event} {error : Error}
    (hbefore : ∀ b ∈ before, b.failure? source reference = none)
    (he : e.failure? source reference = some error) :
    performAll source reference (before ++ e :: after) =
      ⟨(before ++ [e]).filterMap Event.lookup?, .error error⟩ := by
  have hmade := performAll_of_none hbefore
  have hlast := Event.perform_of_some he
  rw [performAll_append, Traced.bind_of_ok (by rw [hmade]), performAll_cons,
    Traced.bind_of_error (by rw [hlast]), hmade, hlast, List.filterMap_append]
  cases hlookup : e.lookup? <;> simp [hlookup]

theorem forall_or_first (source : SatSource) (reference : Text) (events : List Event) :
    (∀ e ∈ events, e.failure? source reference = none) ∨
      ∃ before e after error, events = before ++ e :: after ∧
        (∀ b ∈ before, b.failure? source reference = none) ∧
        e.failure? source reference = some error := by
  cases h : events.findSome? (Event.failure? source reference) with
  | none => exact Or.inl (List.findSome?_eq_none_iff.mp h)
  | some error =>
    obtain ⟨before, e, after, hevents, he, hbefore⟩ := List.findSome?_eq_some_iff.mp h
    exact Or.inr ⟨before, e, after, error, hevents, hbefore, he⟩

/-! ### Resolving as performing events -/

/-- A single computation is an event if both make the same lookups and fail alike. -/
theorem Event.forget_eq_perform {α : Type} {x : Traced α} {e : Event}
    (hlookups : e.lookup?.toList = x.lookups)
    (hfailure : e.failure? source reference = errorOf? x.outcome) :
    x.forget = e.perform source reference := by
  cases hx : x.outcome with
  | ok a => rw [Traced.forget_of_ok hx, perform, hfailure, hlookups, hx, errorOf?]
  | error error => rw [Traced.forget_of_error hx, perform, hfailure, hlookups, hx, errorOf?]

theorem errorOf?_outcomeFor {α : Type} (outcome : Except Error α) :
    errorOf? (outcomeFor reference outcome) = (errorOf? outcome).map (Error.toldFor reference) := by
  cases outcome <;> rfl

theorem forget_resolveRange (c : Chunk) : (resolveRange source reference c).forget =
    performAll source reference (rangeEvents c) := by
  have hvalidate : (Traced.lift (QueryRange.of c.lo c.hi)).forget =
      (Event.validate c).perform source reference := Event.forget_eq_perform rfl rfl
  rw [resolveRange, Traced.forget_bind, rangeEvents, performAll_cons, ← hvalidate]
  refine Traced.bind_eq_forget_bind fun q hof => ?_
  replace hof : QueryRange.of c.lo c.hi = .ok q := hof
  obtain ⟨-, -, hq⟩ := QueryRange.of_eq_ok_iff.mp hof
  have hhash : (Traced.ask (.blockHash q.height)
      (outcomeFor reference (source.blockHash q.height))).forget =
      (Event.blockHash q.height).perform source reference :=
    Event.forget_eq_perform rfl (errorOf?_outcomeFor _).symm
  rw [Traced.bind_of_ok (reportOf_eq hq), hof, performAll_cons, performAll_nil, bind_pure, ← hhash]
  exact Traced.forget_bind_pure _ _

theorem forget_describe (named : NamedSat) : (describe named).forget =
    performAll source reference [.metadata named.sat] := by
  have hmetadata : (Traced.ask (.metadata named.sat) (metadataAt named.sat)).forget =
      (Event.metadata named.sat).perform source reference := Event.forget_eq_perform rfl rfl
  rw [describe, performAll_cons, performAll_nil, bind_pure, ← hmetadata]
  exact Traced.forget_bind_pure _ _

/-- If the members of a list are events, the list is their sequence. -/
theorem forget_mapM {α β : Type} {f : α → Traced β} {events : α → List Event}
    (h : ∀ x, (f x).forget = performAll source reference (events x)) (xs : List α) :
    (xs.mapM f).forget = performAll source reference (xs.flatMap events) := by
  induction xs with
  | nil => rfl
  | cons x xs ih =>
    calc ((x :: xs).mapM f).forget
        = f x >>= fun y => (xs.mapM f >>= fun ys => pure (y :: ys)).forget := by
          rw [List.mapM_cons, Traced.forget_bind]
      _ = (f x).forget >>= fun _ => (xs.mapM f).forget :=
          Traced.bind_eq_forget_bind fun y _ => Traced.forget_bind_pure _ _
      _ = performAll source reference (events x) >>= fun _ =>
            performAll source reference (xs.flatMap events) := by rw [h x, ih]
      _ = performAll source reference ((x :: xs).flatMap events) := by
          rw [List.flatMap_cons, performAll_append]

/-- **Apart from its value, resolving a reference is performing its events.** -/
theorem forget_resolve (source : SatSource) (reference : Text) :
    (resolve source reference).forget =
      performAll source reference (canonicalEvents source reference) := by
  have hparse : (Traced.lift (OutPoint.parse reference)).forget =
      Event.parse.perform source reference := Event.forget_eq_perform rfl rfl
  rw [resolve, Traced.forget_bind, canonicalEvents, performAll_cons, ← hparse]
  refine Traced.bind_eq_forget_bind fun outpoint houtpoint => ?_
  replace houtpoint : OutPoint.parse reference = .ok outpoint := houtpoint
  have hlist : (Traced.ask (.listRanges outpoint)
      (outcomeFor reference (source.listRanges outpoint))).forget =
      (Event.listRanges outpoint).perform source reference :=
    Event.forget_eq_perform rfl (errorOf?_outcomeFor _).symm
  rw [Traced.forget_bind, houtpoint, performAll_cons, ← hlist]
  refine Traced.bind_eq_forget_bind fun chunks hchunks => ?_
  replace hchunks : source.listRanges outpoint = .ok chunks := outcomeFor_eq_ok_iff.mp hchunks
  rw [Traced.forget_bind, hchunks]
  show _ = performAll source reference (chunkEvents chunks)
  rw [chunkEvents, performAll_append, ← forget_mapM forget_resolveRange]
  refine Traced.bind_eq_forget_bind fun ranges hranges => ?_
  -- All ranges are valid here, so the first sats give all named sats.
  have hnamed := namedSats_eq (valid_of_resolved hranges)
  rw [Traced.forget_bind, Traced.bind_of_ok hnamed, Traced.forget_bind_pure, List.map_eq_flatMap,
    ← forget_mapM forget_describe]
  rfl

/-! ### A batch of one reference -/

theorem forget_resolveAll_singleton (h : source.tracksSats = true) :
    (resolveAll source [reference]).forget =
      performAll source reference (canonicalEvents source reference) := by
  rw [resolveAll_singleton, Traced.forget_bind_pure, resolveOne, if_pos h, forget_resolve]

theorem singleton_of_none (htracks : source.tracksSats = true)
    (h : ∀ e ∈ canonicalEvents source reference, e.failure? source reference = none) :
    ∃ result, resolveAll source [reference] =
      ⟨(canonicalEvents source reference).filterMap Event.lookup?, .ok [result]⟩ := by
  have hforget : (resolveAll source [reference]).forget = _ := forget_resolveAll_singleton htracks
  rw [performAll_of_none h] at hforget
  obtain ⟨results, hresults⟩ := Traced.exists_eq_of_forget_eq_ok hforget
  obtain ⟨-, hforall⟩ := resolveAll_eq_ok_iff.mp (congrArg Traced.outcome hresults)
  obtain ⟨result, rest, -, hnil, rfl⟩ := List.forall₂_cons_left_iff.mp hforall
  cases hnil
  exact ⟨result, hresults⟩

/-- The first event that fails is the last one, and its error is told. -/
theorem singleton_of_first (htracks : source.tracksSats = true) {before after : List Event}
    {e : Event} {error : Error} (hevents : canonicalEvents source reference = before ++ e :: after)
    (hbefore : ∀ b ∈ before, b.failure? source reference = none)
    (he : e.failure? source reference = some error) :
    resolveAll source [reference] = ⟨(before ++ [e]).filterMap Event.lookup?, .error error⟩ := by
  have hforget : (resolveAll source [reference]).forget = _ := forget_resolveAll_singleton htracks
  rw [hevents, performAll_of_first hbefore he] at hforget
  exact Traced.eq_of_forget_eq_error hforget

theorem failure?_rangeEvents_iff {chunks : List Chunk} :
    (∀ e ∈ chunks.flatMap rangeEvents, e.failure? source reference = none) ↔
      ∀ c ∈ chunks, ∃ q hash, QueryRange.of c.lo c.hi = .ok q ∧
        source.blockHash q.height = .ok hash := by
  constructor
  · intro h c hc
    have hrange : ∀ e ∈ rangeEvents c, e.failure? source reference = none := fun e he =>
      h e (List.mem_flatMap.mpr ⟨c, hc, he⟩)
    obtain ⟨q, hof⟩ := errorOf?_eq_none_iff.mp (hrange _ List.mem_cons_self)
    have hmem : Event.blockHash q.height ∈ rangeEvents c := by
      rw [rangeEvents, hof]
      exact List.mem_cons_of_mem _ List.mem_cons_self
    obtain ⟨hash, hhash⟩ := errorOf?_eq_none_iff.mp (Option.map_eq_none_iff.mp (hrange _ hmem))
    exact ⟨q, hash, hof, hhash⟩
  · intro h e he
    obtain ⟨c, hc, he⟩ := List.mem_flatMap.mp he
    obtain ⟨q, hash, hof, hhash⟩ := h c hc
    rw [rangeEvents, hof] at he
    rcases List.mem_cons.mp he with rfl | he
    · rw [Event.failure?, hof, errorOf?]
    · cases List.mem_singleton.mp he
      rw [Event.failure?, hhash, errorOf?, Option.map_none]

theorem metadata_notMem_rangeEvents (chunks : List Chunk) (n : Int) :
    Event.metadata n ∉ chunks.flatMap rangeEvents := by
  intro h
  obtain ⟨c, -, h⟩ := List.mem_flatMap.mp h
  rw [rangeEvents] at h
  split at h <;> simp at h

/-- Before the events of named sats stand events that all succeed only if the source answers. -/
theorem canonicalEvents_split (source : SatSource) (reference : Text) :
    ∃ front named, canonicalEvents source reference = front ++ named ∧
      (∀ n, Event.metadata n ∉ front) ∧
      ((∀ e ∈ front, e.failure? source reference = none) → source.Answers reference) := by
  rw [canonicalEvents]
  cases hparse : OutPoint.parse reference with
  | error e =>
    refine ⟨[.parse], [], rfl, fun n => by simp, fun h => ?_⟩
    have hfailure := h .parse List.mem_cons_self
    rw [Event.failure?, hparse] at hfailure
    cases hfailure
  | ok outpoint =>
    cases hlist : source.listRanges outpoint with
    | error e =>
      refine ⟨[.parse, .listRanges outpoint], [], by simp [hlist], fun n => by simp, fun h => ?_⟩
      have hfailure := h (.listRanges outpoint) (by simp)
      rw [Event.failure?, hlist] at hfailure
      cases hfailure
    | ok chunks =>
      refine ⟨.parse :: .listRanges outpoint :: chunks.flatMap rangeEvents,
        (everyNamedSat chunks).map fun named => .metadata named.sat, by simp [hlist, chunkEvents],
        fun n => ?_, fun h => ?_⟩
      · have hnotMem := metadata_notMem_rangeEvents chunks n
        simp [hnotMem]
      · rw [List.forall_mem_cons, List.forall_mem_cons] at h
        exact ⟨outpoint, chunks, hparse, hlist, failure?_rangeEvents_iff.mp h.2.2⟩

/-- No metadata is asked for unless the source answers. -/
theorem singleton_metadata (htracks : source.tracksSats = true) (h : ¬ source.Answers reference)
    (n : Int) : Lookup.metadata n ∉ (resolveAll source [reference]).lookups := by
  obtain ⟨front, named, hevents, hfront, hanswers⟩ := canonicalEvents_split source reference
  rcases forall_or_first source reference front with
    hnone | ⟨before, e, after, error, rfl, hbefore, he⟩
  · exact absurd (hanswers hnone) h
  rw [List.append_assoc, List.cons_append] at hevents
  rw [singleton_of_first htracks hevents hbefore he]
  intro hmem
  obtain ⟨event, hevent, hlookup⟩ := List.mem_filterMap.mp hmem
  have hmetadata : event = .metadata n := by
    cases event <;> simp_all [Event.lookup?]
  refine hfront n (hmetadata ▸ ?_)
  rw [List.append_cons]
  exact List.mem_append_left _ hevent

/-! ### Events that fail -/

theorem singleton_of_lost_ranges (htracks : source.tracksSats = true) {outpoint : OutPoint}
    {error : Error} (hparse : OutPoint.parse reference = .ok outpoint)
    (hlist : source.listRanges outpoint = .error error) :
    resolveAll source [reference] = ⟨[.listRanges outpoint], .error (error.toldFor reference)⟩ := by
  have hevents : canonicalEvents source reference = [.parse] ++ .listRanges outpoint :: [] := by
    rw [canonicalEvents, hparse]
    simp only [hlist, List.cons_append, List.nil_append]
  have hnone : ∀ e ∈ [Event.parse], e.failure? source reference = none := by
    rw [List.forall_mem_singleton, Event.failure?, hparse, errorOf?]
  have hfirst : (Event.listRanges outpoint).failure? source reference =
      some (error.toldFor reference) := by
    rw [Event.failure?, hlist, errorOf?, Option.map_some]
  rw [singleton_of_first htracks hevents hnone hfirst]
  rfl

section OneRange

variable {outpoint : OutPoint} {before after : List Chunk} {c : Chunk} {error : Error}
  (hparse : OutPoint.parse reference = .ok outpoint)
  (hlist : source.listRanges outpoint = .ok (before ++ c :: after))

include hparse hlist

theorem canonicalEvents_to_range : ∃ later, canonicalEvents source reference =
    (.parse :: .listRanges outpoint :: before.flatMap rangeEvents) ++ (rangeEvents c ++ later) := by
  refine ⟨after.flatMap rangeEvents ++
    (everyNamedSat (before ++ c :: after)).map fun named => .metadata named.sat, ?_⟩
  rw [canonicalEvents, hparse]
  simp only [hlist, chunkEvents, List.flatMap_append, List.flatMap_cons, List.append_assoc,
    List.cons_append]

variable (hbefore : ∀ b ∈ before, ∃ q hash, QueryRange.of b.lo b.hi = .ok q ∧
  source.blockHash q.height = .ok hash)

include hbefore

theorem failure?_to_range : ∀ e ∈ Event.parse :: .listRanges outpoint :: before.flatMap rangeEvents,
    e.failure? source reference = none := by
  rw [List.forall_mem_cons, List.forall_mem_cons]
  refine ⟨?_, ?_, failure?_rangeEvents_iff.mpr hbefore⟩
  · rw [Event.failure?, hparse, errorOf?]
  · rw [Event.failure?, hlist, errorOf?, Option.map_none]

/-- An invalid range costs no lookup of its own, and those of the ranges before it are made. -/
theorem singleton_of_invalid (htracks : source.tracksSats = true)
    (hc : QueryRange.of c.lo c.hi = .error error) :
    resolveAll source [reference] = ⟨.listRanges outpoint ::
      (before.flatMap rangeEvents).filterMap Event.lookup?, .error error⟩ := by
  obtain ⟨later, hevents⟩ := canonicalEvents_to_range hparse hlist
  have hnone := failure?_to_range hparse hlist hbefore
  have hrange : rangeEvents c = [.validate c] := by rw [rangeEvents, hc]
  have hfirst : (Event.validate c).failure? source reference = some error := by
    rw [Event.failure?, hc, errorOf?]
  rw [hrange, List.singleton_append] at hevents
  rw [singleton_of_first htracks hevents hnone hfirst]
  simp [Event.lookup?, List.filterMap_cons]

theorem singleton_of_lost_hash (htracks : source.tracksSats = true) {q : QueryRange}
    (hc : QueryRange.of c.lo c.hi = .ok q) (hhash : source.blockHash q.height = .error error) :
    resolveAll source [reference] = ⟨.listRanges outpoint ::
      ((before.flatMap rangeEvents).filterMap Event.lookup? ++ [.blockHash q.height]),
        .error (error.toldFor reference)⟩ := by
  obtain ⟨later, hevents⟩ := canonicalEvents_to_range hparse hlist
  have hrange : rangeEvents c = [.validate c, .blockHash q.height] := by rw [rangeEvents, hc]
  have hnone : ∀ e ∈ (.parse :: .listRanges outpoint :: before.flatMap rangeEvents) ++
      [.validate c], e.failure? source reference = none := by
    rw [List.forall_mem_append, List.forall_mem_singleton]
    refine ⟨failure?_to_range hparse hlist hbefore, ?_⟩
    rw [Event.failure?, hc, errorOf?]
  have hfirst : (Event.blockHash q.height).failure? source reference =
      some (error.toldFor reference) := by
    rw [Event.failure?, hhash, errorOf?, Option.map_some]
  have hsplit : canonicalEvents source reference =
      ((.parse :: .listRanges outpoint :: before.flatMap rangeEvents) ++ [.validate c]) ++
        .blockHash q.height :: later := by
    rw [hevents, hrange, List.append_assoc]
    rfl
  rw [singleton_of_first htracks hsplit hnone hfirst]
  simp [Event.lookup?, List.filterMap_cons]

end OneRange

/-- **The lookups of a reference are a prefix of its events.** Against a source that tracks sats,
exactly the events up to the first one that fails happen, and its error is the outcome; if none
fails there is one result. The lookups of an invalid range are not made but those of the ranges
before it are, and no metadata is asked for unless the source answers. The fault of an invalid range
is told as such, unless a bound is too long to be written. A lookup that fails is the last one, and
its error is told as it is if it is for the caller, and else against the reference, as it was given.
A source that does not track sats is not asked at all. -/
theorem events_of_reference (source : SatSource) (reference : Text) :
    (source.tracksSats = true →
      (∃ made later, canonicalEvents source reference = made ++ later ∧
        (resolveAll source [reference]).lookups = made.filterMap Event.lookup? ∧
        ((later = [] ∧ (∀ e ∈ made, e.failure? source reference = none) ∧
            ∃ result, (resolveAll source [reference]).outcome = .ok [result]) ∨
          ∃ before e error, made = before ++ [e] ∧
            (∀ b ∈ before, b.failure? source reference = none) ∧
            e.failure? source reference = some error ∧
            (resolveAll source [reference]).outcome = .error error)) ∧
      (∀ outpoint error, OutPoint.parse reference = .ok outpoint →
        source.listRanges outpoint = .error error →
        resolveAll source [reference] = ⟨[.listRanges outpoint],
          .error (if error.isReportable then error
            else .lookupFailed reference error.message)⟩) ∧
      (∀ outpoint before c after, OutPoint.parse reference = .ok outpoint →
        source.listRanges outpoint = .ok (before ++ c :: after) →
        (∀ b ∈ before, ∃ q hash, QueryRange.of b.lo b.hi = .ok q ∧
          source.blockHash q.height = .ok hash) →
        (∀ error, QueryRange.of c.lo c.hi = .error error →
          ((∃ fault, error = .invalidRange fault) ∨
            error = .unwritableNumber ∧ QueryRange.HasLongBound c.lo c.hi) ∧
          resolveAll source [reference] = ⟨.listRanges outpoint ::
            (before.flatMap rangeEvents).filterMap Event.lookup?, .error error⟩) ∧
        ∀ q error, QueryRange.of c.lo c.hi = .ok q →
          source.blockHash q.height = .error error →
          resolveAll source [reference] = ⟨.listRanges outpoint ::
            ((before.flatMap rangeEvents).filterMap Event.lookup? ++ [.blockHash q.height]),
              .error (if error.isReportable then error
                else .lookupFailed reference error.message)⟩) ∧
      (source.Answers reference ∨
        ∀ n, Lookup.metadata n ∉ (resolveAll source [reference]).lookups)) ∧
    (source.tracksSats = false →
      ∀ references, resolveAll source references = ⟨[], .error .satsNotTracked⟩) := by
  refine ⟨fun htracks => ⟨?_, ?_, ?_, ?_⟩, resolveAll_of_untracked⟩
  · rcases forall_or_first source reference (canonicalEvents source reference) with
      hnone | ⟨before, e, after, error, hevents, hbefore, he⟩
    · obtain ⟨result, hresult⟩ := singleton_of_none htracks hnone
      refine ⟨_, [], (List.append_nil _).symm, by rw [hresult], Or.inl ⟨rfl, hnone, result, ?_⟩⟩
      rw [hresult]
    · have hfirst := singleton_of_first htracks hevents hbefore he
      refine ⟨before ++ [e], after, by rw [hevents, List.append_cons], by rw [hfirst],
        Or.inr ⟨before, e, error, rfl, hbefore, he, ?_⟩⟩
      rw [hfirst]
  · intro outpoint error hparse hlist
    exact singleton_of_lost_ranges htracks hparse hlist
  · intro outpoint before c after hparse hlist hbefore
    refine ⟨fun error hc => ?_, fun q error hc hhash => ?_⟩
    · exact ⟨QueryRange.of_error_cases hc, singleton_of_invalid hparse hlist hbefore htracks hc⟩
    · exact singleton_of_lost_hash hparse hlist hbefore htracks hc hhash
  · exact or_iff_not_imp_left.mpr (singleton_metadata htracks)

/-- An index of one output, whose second range is empty. -/
def emptyRangeIndex : SatIndex :=
  ⟨true, [(⟨String.ofList (List.replicate 64 'a'), 7⟩, [⟨0, 3⟩, ⟨3, 3⟩])], []⟩

/-- An empty range after another one, the same index with no sats tracked, a lookup that is refused,
and one that breaks down. -/
theorem events_of_an_empty_range :
    let output : OutPoint := ⟨String.ofList (List.replicate 64 'a'), 7⟩
    let refusing := emptyRangeIndex.source.withFault (some ⟨.listRanges none, .refused "no"⟩)
    let breaking := emptyRangeIndex.source.withFault (some ⟨.blockHash none, .broken "gone"⟩)
    (∃ made later, canonicalEvents emptyRangeIndex.source twoBlocksReference = made ++ later ∧
      (resolveAll emptyRangeIndex.source [twoBlocksReference]).lookups =
        made.filterMap Event.lookup?) ∧
    resolveAll emptyRangeIndex.source [twoBlocksReference] =
      ⟨[.listRanges output, .blockHash 0], .error (.invalidRange (.empty 3 3))⟩ ∧
    resolveAll refusing [twoBlocksReference] = ⟨[.listRanges output], .error (.refused "no")⟩ ∧
    resolveAll breaking [twoBlocksReference] =
      ⟨[.listRanges output, .blockHash 0], .error (.lookupFailed twoBlocksReference "gone")⟩ ∧
    resolveAll (SatIndex.source ⟨false, [], []⟩) [twoBlocksReference] =
      ⟨[], .error .satsNotTracked⟩ := by
  intro output refusing breaking
  obtain ⟨hmade, -, hranges, -⟩ :=
    (events_of_reference emptyRangeIndex.source twoBlocksReference).1 rfl
  obtain ⟨made, later, hevents, hlookups, -⟩ := hmade
  obtain ⟨-, hrefused, -⟩ := (events_of_reference refusing twoBlocksReference).1 rfl
  obtain ⟨-, -, hbroken, -⟩ := (events_of_reference breaking twoBlocksReference).1 rfl
  have hbefore : ∀ b ∈ [(⟨0, 3⟩ : Chunk)], ∃ q hash, QueryRange.of b.lo b.hi = .ok q ∧
      emptyRangeIndex.source.blockHash q.height = .ok hash := by
    intro b hb
    cases List.mem_singleton.mp hb
    exact ⟨⟨0, 3, 0⟩, none, rfl, rfl⟩
  refine ⟨⟨made, later, hevents, hlookups⟩, ?_, ?_, ?_, ?_⟩
  · exact ((hranges output [⟨0, 3⟩] ⟨3, 3⟩ [] rfl rfl hbefore).1 _ rfl).2
  · exact hrefused output _ rfl rfl
  · exact (hbroken output [] ⟨0, 3⟩ [⟨3, 3⟩] rfl rfl (fun b hb => absurd hb List.not_mem_nil)).2
      ⟨0, 3, 0⟩ (.broken "gone") rfl rfl
  · exact (events_of_reference _ twoBlocksReference).2 rfl _

/-- An invalid range is not told as such where a bound is too long to be written. -/
theorem untold_long_range :
    ¬ ∀ (index : SatIndex) (reference : Text) (outpoint : OutPoint) (c : Chunk),
      index.tracksSats = true → OutPoint.parse reference = .ok outpoint →
      index.listRanges outpoint = .ok [c] → (∀ q, QueryRange.of c.lo c.hi ≠ .ok q) →
      ∃ fault, (resolveAll index.source [reference]).outcome = .error (.invalidRange fault) := by
  intro h
  let output : OutPoint := ⟨String.ofList (List.replicate 64 'a'), 7⟩
  let index : SatIndex := ⟨true, [(output, [⟨10 ^ Error.digitLimit, 0⟩])], []⟩
  have hlong := QueryRange.hasLongBound_pow.of_eq
  have hlist : index.listRanges output = .ok [⟨10 ^ Error.digitLimit, 0⟩] := by
    simp [index, SatIndex.listRanges]
  obtain ⟨fault, hfault⟩ := h index twoBlocksReference output ⟨10 ^ Error.digitLimit, 0⟩ rfl rfl
    hlist fun q hq => by
      rw [hlong] at hq
      cases hq
  have hbefore : ∀ b ∈ ([] : List Chunk), ∃ q hash, QueryRange.of b.lo b.hi = .ok q ∧
      index.source.blockHash q.height = .ok hash := fun b hb => absurd hb List.not_mem_nil
  have hsplit : index.source.listRanges output = .ok ([] ++ ⟨10 ^ Error.digitLimit, 0⟩ :: []) :=
    hlist
  rw [singleton_of_invalid rfl hsplit hbefore rfl hlong] at hfault
  cases hfault

end RareSats
