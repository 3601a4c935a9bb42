/-
# Answers of a table that is built late

A table is built by the first step that needs it, and not at all if the intervals of
a kind are rejected. Its answers do not show when that was: each of them is what the
sources alone say (`RangeTable.Serves.answer_step`), since a table that is built holds what
building it now would give (`RangeTable.Serves`). What shows is whether the table is
built: from the first step on that is more than listing the kinds, if all sources are
accepted, and never if one is rejected.

Key definitions: `RangeTable.after`, `RangeTable.Serves`, `RangeTable.answerOf`.
Key theorems: `RangeTable.build_ok`, `RangeTable.build_of_first_rejected`,
`RangeTable.Serves.after`, `RangeTable.run_answers_sources`.
-/
import Mathlib.Data.List.Forall2
import RareSats.Curated.Table
import RareSats.Proofs.OrderedMap

namespace RareSats
namespace RangeTable

variable {satsPerBlock : Int} {sources : List (RarityKind × List (List Int))}
  {tables : KindBuckets} {t : RangeTable}

/-! ### Building -/

/-- The intervals of a source can be bucketed. -/
def Accepted (satsPerBlock : Int) (source : RarityKind × List (List Int)) : Prop :=
  ∃ buckets, bucketWritten satsPerBlock source.2 = .ok buckets

/-- What becomes of a source when it is bucketed. -/
def BuiltFrom (satsPerBlock : Int) (source : RarityKind × List (List Int))
    (built : RarityKind × Buckets) : Prop :=
  built.1 = source.1 ∧ bucketWritten satsPerBlock source.2 = .ok built.2

/-- **A built table holds the buckets of each source in its place.** -/
theorem build_eq_ok_iff : build satsPerBlock sources = .ok tables ↔
    List.Forall₂ (BuiltFrom satsPerBlock) sources tables := by
  induction sources generalizing tables with
  | nil =>
    rw [build, List.forall₂_nil_left_iff, Except.ok.injEq]
    exact eq_comm
  | cons source rest ih =>
    rw [build, List.forall₂_cons_left_iff]
    cases hsource : bucketWritten satsPerBlock source.2 with
    | error e =>
      refine iff_of_false (fun h => by cases h) ?_
      rintro ⟨built, -, ⟨-, hbuilt⟩, -⟩
      rw [hsource] at hbuilt
      cases hbuilt
    | ok buckets =>
      cases hrest : build satsPerBlock rest with
      | error e =>
        refine iff_of_false (fun h => by cases h) ?_
        rintro ⟨-, others, -, hothers, -⟩
        rw [← ih, hrest] at hothers
        cases hothers
      | ok others =>
        refine ⟨fun h => ?_, fun h => ?_⟩
        · cases h
          exact ⟨(source.1, buckets), others, ⟨rfl, hsource⟩, ih.mp hrest, rfl⟩
        · obtain ⟨⟨kind, buckets'⟩, others', ⟨hkind, hbuckets⟩, hothers, rfl⟩ := h
          rw [← ih, hrest] at hothers
          rw [hsource] at hbuckets
          cases hkind
          cases hbuckets
          cases hothers
          rfl

theorem build_ok (h : ∀ source ∈ sources, Accepted satsPerBlock source) :
    ∃ tables, build satsPerBlock sources = .ok tables := by
  simp only [build_eq_ok_iff]
  induction sources with
  | nil => exact ⟨[], .nil⟩
  | cons source rest ih =>
    rw [List.forall_mem_cons] at h
    obtain ⟨buckets, hbuckets⟩ := h.1
    obtain ⟨others, hothers⟩ := ih h.2
    exact ⟨(source.1, buckets) :: others, .cons ⟨rfl, hbuckets⟩ hothers⟩

/-- A table is not built past the first source that is rejected. -/
theorem build_of_first_rejected {before after : List (RarityKind × List (List Int))}
    {source : RarityKind × List (List Int)} {e : Error}
    (hbefore : ∀ s ∈ before, Accepted satsPerBlock s)
    (hsource : bucketWritten satsPerBlock source.2 = .error e) :
    build satsPerBlock (before ++ source :: after) = .error e := by
  induction before with
  | nil =>
    rw [List.nil_append, build, hsource]
    rfl
  | cons first rest ih =>
    rw [List.forall_mem_cons] at hbefore
    obtain ⟨buckets, hbuckets⟩ := hbefore.1
    rw [List.cons_append, build, hbuckets, ih hbefore.2]
    rfl

/-! ### Finding -/

theorem map_fst_of_built (h : build satsPerBlock sources = .ok tables) :
    tables.map (·.1) = sources.map (·.1) := by
  rw [build_eq_ok_iff] at h
  induction h with
  | nil => rfl
  | cons hfirst _ ih => rw [List.map_cons, List.map_cons, hfirst.1, ih]

theorem mem_of_built (h : build satsPerBlock sources = .ok tables) {kind : RarityKind}
    {written : List (List Int)} (hmem : (kind, written) ∈ sources) {buckets : Buckets}
    (hbuckets : bucketWritten satsPerBlock written = .ok buckets) : (kind, buckets) ∈ tables := by
  rw [build_eq_ok_iff] at h
  induction h with
  | nil => cases hmem
  | @cons source built rest others hfirst _ ih =>
    rcases List.mem_cons.mp hmem with rfl | hmem
    · obtain ⟨hkind, hbuilt⟩ := hfirst
      rw [hbuckets, Except.ok.injEq] at hbuilt
      exact List.mem_cons.mpr (Or.inl (Prod.ext hkind.symm hbuilt))
    · exact List.mem_cons_of_mem _ (ih hmem)

theorem find_of_mem (h : build satsPerBlock sources = .ok tables)
    (hkinds : (sources.map (·.1)).Nodup) {kind : RarityKind} {written : List (List Int)}
    (hmem : (kind, written) ∈ sources) {buckets : Buckets}
    (hbuckets : bucketWritten satsPerBlock written = .ok buckets) (height : Int) :
    find tables kind height = .ok (buckets.at height) := by
  rw [← map_fst_of_built h] at hkinds
  rw [find, lookup_of_mem hkinds (mem_of_built h hmem hbuckets)]

theorem find_of_notMem (h : build satsPerBlock sources = .ok tables) {kind : RarityKind}
    (hkind : kind ∉ sources.map (·.1)) (height : Int) :
    find tables kind height = .error (.notCurated kind.token) := by
  rw [← map_fst_of_built h] at hkind
  rw [find, lookup_of_notMem hkind]

/-! ### One step -/

/-- The table is one over the sources, and its buckets are those that building it now would give,
be it built or not. -/
structure Serves (satsPerBlock : Int) (sources : List (RarityKind × List (List Int)))
    (t : RangeTable) : Prop where
  sources_eq : t.sources = sources
  tables_eq : t.tables = build satsPerBlock sources

/-- What the sources say to a step. -/
def answerOf (satsPerBlock : Int) (sources : List (RarityKind × List (List Int))) :
    Step → Except Error Answer
  | .kinds => .ok (.kinds (sources.map (·.1)))
  | .warm => (build satsPerBlock sources).map fun _ => .done
  | .rangesAt kind height =>
    (build satsPerBlock sources).bind fun tables => (find tables kind height).map .ranges

theorem serves_ofWritten (hkinds : (sources.map (·.1)).Nodup) (satsPerBlock : Int) :
    (ofWritten sources satsPerBlock).Serves satsPerBlock sources where
  sources_eq := mapOfEntries_of_nodup hkinds
  tables_eq := by
    unfold ofWritten
    rw [mapOfEntries_of_nodup hkinds]
    rfl

/-- **The answer to a step does not depend on whether the table is built.** -/
theorem Serves.answer_step (h : t.Serves satsPerBlock sources) (x : Step) :
    (t.step x).1 = answerOf satsPerBlock sources x := by
  cases x with
  | kinds => rw [step, answerOf, kinds, h.sources_eq]
  | warm =>
    rw [step, answerOf, h.tables_eq]
    cases build satsPerBlock sources <;> rfl
  | rangesAt kind height =>
    rw [step, answerOf, h.tables_eq]
    cases build satsPerBlock sources <;> rfl

/-- A step leaves the table as it is or has built it. -/
theorem step_table (t : RangeTable) (x : Step) :
    ((x = .kinds ∨ ∃ e, t.tables = .error e) ∧ (t.step x).2 = t) ∨
      ∃ tables, x ≠ .kinds ∧ t.tables = .ok tables ∧
        (t.step x).2 = { t with built := some tables } := by
  cases x with
  | kinds => exact Or.inl ⟨Or.inl rfl, rfl⟩
  | warm =>
    rw [step]
    cases htables : t.tables with
    | error e => exact Or.inl ⟨Or.inr ⟨e, rfl⟩, rfl⟩
    | ok tables => exact Or.inr ⟨tables, by decide, rfl, rfl⟩
  | rangesAt kind height =>
    rw [step]
    cases htables : t.tables with
    | error e => exact Or.inl ⟨Or.inr ⟨e, rfl⟩, rfl⟩
    | ok tables => exact Or.inr ⟨tables, by simp, rfl, rfl⟩

theorem Serves.step (h : t.Serves satsPerBlock sources) (x : Step) :
    (t.step x).2.Serves satsPerBlock sources := by
  rcases t.step_table x with ⟨-, hsame⟩ | ⟨tables, -, htables, hbuilt⟩
  · rwa [hsame]
  · rw [hbuilt]
    refine ⟨h.sources_eq, ?_⟩
    rw [← h.tables_eq, htables]
    rfl

/-- A step builds the table if it is more than listing the kinds. -/
theorem isBuilt_step_of_ok (h : t.tables = .ok tables) (x : Step) :
    (t.step x).2.isBuilt = true ↔ t.isBuilt = true ∨ x ≠ .kinds := by
  rcases t.step_table x with ⟨hkinds, hsame⟩ | ⟨_, hne, -, hbuilt⟩
  · have hx : x = .kinds := by
      refine hkinds.resolve_right fun ⟨e, he⟩ => ?_
      rw [h] at he
      cases he
    rw [hsame, hx]
    exact (or_iff_left fun hne => hne rfl).symm
  · rw [hbuilt]
    exact iff_of_true rfl (Or.inr hne)

theorem not_isBuilt_of_error {e : Error} (h : t.tables = .error e) : t.isBuilt = false := by
  unfold tables at h
  unfold isBuilt
  cases hbuilt : t.built with
  | none => rfl
  | some tables =>
    rw [hbuilt] at h
    cases h

theorem answerOf_warm_of_ok (h : build satsPerBlock sources = .ok tables) :
    answerOf satsPerBlock sources .warm = .ok .done := by
  rw [answerOf, h]
  rfl

theorem answerOf_rangesAt_of_ok (h : build satsPerBlock sources = .ok tables) (kind : RarityKind)
    (height : Int) : answerOf satsPerBlock sources (.rangesAt kind height) =
      (find tables kind height).map .ranges := by
  rw [answerOf, h]
  rfl

theorem answerOf_of_error {e : Error} (h : build satsPerBlock sources = .error e) {x : Step}
    (hx : x ≠ .kinds) : answerOf satsPerBlock sources x = .error e := by
  cases x with
  | kinds => exact absurd rfl hx
  | warm =>
    rw [answerOf, h]
    rfl
  | rangesAt kind height =>
    rw [answerOf, h]
    rfl

/-! ### Runs of steps -/

/-- The table after steps in their order. -/
def after (t : RangeTable) (steps : List Step) : RangeTable :=
  steps.foldl (fun t x => (t.step x).2) t

theorem getElem?_run (t : RangeTable) (before later : List Step) (x : Step) :
    (t.run (before ++ x :: later))[before.length]? =
      some (((t.after before).step x).1, (t.after (before ++ [x])).isBuilt) := by
  induction before generalizing t with
  | nil => rfl
  | cons y rest ih =>
    rw [List.cons_append, run, List.length_cons, List.getElem?_cons_succ, ih]
    rfl

theorem Serves.after (h : t.Serves satsPerBlock sources) (steps : List Step) :
    (t.after steps).Serves satsPerBlock sources := by
  induction steps generalizing t with
  | nil => exact h
  | cons x rest ih => exact ih (h.step x)

/-- **A table that can be built is built by the first step that is more than listing the kinds**,
and stays built. -/
theorem isBuilt_after_iff (hserves : t.Serves satsPerBlock sources)
    (hbuild : build satsPerBlock sources = .ok tables) (steps : List Step) :
    (t.after steps).isBuilt = true ↔ t.isBuilt = true ∨ ∃ x ∈ steps, x ≠ .kinds := by
  induction steps generalizing t with
  | nil => exact (or_iff_left fun ⟨_, hx, _⟩ => List.not_mem_nil hx).symm
  | cons x rest ih =>
    have hstep := isBuilt_step_of_ok (hserves.tables_eq.trans hbuild) x
    show ((t.step x).2.after rest).isBuilt = true ↔ _
    rw [ih (hserves.step x), hstep, or_assoc]
    simp only [List.mem_cons, or_and_right, exists_or, exists_eq_left]

/-- **A table answers what its sources say, whatever was asked before.** If all sources are
accepted, a kind of the table has the intervals of its own bucket at a height, another kind is told
to be none of the table, and the table is built from the first step on that is more than listing the
kinds. If a source is rejected, every such step tells the error of the first one that is, and the
table is never built. Listing the kinds always succeeds and gives them all. -/
theorem run_answers_sources (hkinds : (sources.map (·.1)).Nodup) (satsPerBlock : Int)
    (before later : List Step) (x : Step) :
    (ofWritten sources satsPerBlock).isBuilt = false ∧
    ∃ answer isBuilt,
      ((ofWritten sources satsPerBlock).run (before ++ x :: later))[before.length]? =
        some (answer, isBuilt) ∧
      (x = .kinds → answer = .ok (.kinds (sources.map (·.1)))) ∧
      ((∀ source ∈ sources, Accepted satsPerBlock source) →
        (x = .warm → answer = .ok .done) ∧
        (∀ kind height, x = .rangesAt kind height →
          (∀ written buckets, (kind, written) ∈ sources →
            bucketWritten satsPerBlock written = .ok buckets →
            answer = .ok (.ranges (buckets.at height))) ∧
          (kind ∉ sources.map (·.1) → answer = .error (.notCurated kind.token))) ∧
        (isBuilt = true ↔ ∃ y ∈ before ++ [x], y ≠ .kinds)) ∧
      ∀ first source rest e, sources = first ++ source :: rest →
        (∀ s ∈ first, Accepted satsPerBlock s) → bucketWritten satsPerBlock source.2 = .error e →
        (x ≠ .kinds → answer = .error e) ∧ isBuilt = false := by
  have hserves := serves_ofWritten hkinds satsPerBlock
  refine ⟨rfl, _, _, getElem?_run _ before later x, ?_⟩
  rw [(hserves.after before).answer_step]
  refine ⟨fun hx => by rw [hx]; rfl, fun haccepted => ?_,
    fun first source rest e hsplit hfirst he => ?_⟩
  · obtain ⟨tables, hbuild⟩ := build_ok haccepted
    have hbuilt := isBuilt_after_iff hserves hbuild (before ++ [x])
    have hfresh : ¬ (ofWritten sources satsPerBlock).isBuilt = true := Bool.false_ne_true
    rw [or_iff_right hfresh] at hbuilt
    refine ⟨fun hx => ?_, fun kind height hx => ?_, hbuilt⟩
    · rw [hx, answerOf_warm_of_ok hbuild]
    · rw [hx, answerOf_rangesAt_of_ok hbuild]
      refine ⟨fun written buckets hmem hbuckets => ?_, fun hkind => ?_⟩
      · rw [find_of_mem hbuild hkinds hmem hbuckets]
        rfl
      · rw [find_of_notMem hbuild hkind]
        rfl
  · have hbuild : build satsPerBlock sources = .error e := by
      rw [hsplit]
      exact build_of_first_rejected hfirst he
    exact ⟨answerOf_of_error hbuild,
      not_isBuilt_of_error ((hserves.after _).tables_eq.trans hbuild)⟩

/-- Two curated kinds, for blocks of ten sats. -/
def twoKinds : List (RarityKind × List (List Int)) :=
  [(.pizza, [[0, 5], [7, 9], [10, 12]]), (.vintage, [[20, 21]])]

/-- Two curated kinds, of which the second one has an interval without a sat. -/
def emptyInterval : List (RarityKind × List (List Int)) :=
  [(.pizza, [[0, 5]]), (.vintage, [[5, 5]])]

/-- A lookup after one of a kind that is not curated, and a lookup of a kind whose own intervals are
accepted beside ones that are rejected. -/
theorem run_answers_two_kinds :
    ((ofWritten twoKinds 10).run [.kinds, .rangesAt .omega 0, .rangesAt .pizza 1])[2]? =
      some (.ok (.ranges [⟨10, 12⟩]), true) ∧
    ((ofWritten emptyInterval 10).run [.warm, .rangesAt .pizza 0])[1]? =
      some (.error (.emptyInterval 5 5), false) := by
  constructor
  · have hkinds : (twoKinds.map (·.1)).Nodup := by decide
    obtain ⟨-, answer, isBuilt, hrun, -, haccepted, -⟩ :=
      run_answers_sources hkinds 10 [.kinds, .rangesAt .omega 0] [] (.rangesAt .pizza 1)
    have hsources : ∀ source ∈ twoKinds, Accepted 10 source := by
      simp only [twoKinds, List.forall_mem_cons]
      exact ⟨⟨_, rfl⟩, ⟨_, rfl⟩, fun s hs => absurd hs List.not_mem_nil⟩
    obtain ⟨-, hranges, hbuilt⟩ := haccepted hsources
    obtain ⟨hpizza, -⟩ := hranges .pizza 1 rfl
    have hanswer := hpizza _ [(0, [⟨0, 5⟩, ⟨7, 9⟩]), (1, [⟨10, 12⟩])] List.mem_cons_self rfl
    have hflag := hbuilt.mpr ⟨.rangesAt .omega 0, by decide, by decide⟩
    rw [hanswer, hflag] at hrun
    exact hrun
  · have hkinds : (emptyInterval.map (·.1)).Nodup := by decide
    obtain ⟨-, answer, isBuilt, hrun, -, -, hrejected⟩ :=
      run_answers_sources hkinds 10 [.warm] [] (.rangesAt .pizza 0)
    have hfirst : ∀ s ∈ [((.pizza, [[0, 5]]) : RarityKind × List (List Int))], Accepted 10 s := by
      simp only [List.forall_mem_cons]
      exact ⟨⟨_, rfl⟩, fun s hs => absurd hs List.not_mem_nil⟩
    obtain ⟨hanswer, hflag⟩ :=
      hrejected _ (.vintage, [[5, 5]]) [] (.emptyInterval 5 5) rfl hfirst rfl
    rw [hanswer (by decide), hflag] at hrun
    exact hrun

end RangeTable
end RareSats
