/-
# A shared table does not show

Over a table of the curated intervals, be it built or not, a tabled computation comes to
what a traced one does, and leaves such a table (`Mirrors`). So what is resolved over the
shared table is what is resolved with the intervals at hand (`mirrors_resolveAll`),
whatever was resolved before.

All that changes is whether the table is built. A computation builds it if it gets as far
as to a curated kind, be there an error behind it or not; a report of a range always does,
since no kind before the curated one can fail (`mirrors_report`).

Key definitions: `RangeTable.IsCurated`, `Mirrors`, `ComesTo`, `SatSource.Reaches`.
Key theorems: `Mirrors.bind`, `Mirrors.mapM`, `mirrors_report`, `mirrors_resolveAll`.
-/
import Mathlib.Data.List.Nodup
import RareSats.Proofs.Curated
import RareSats.Proofs.Resolve
import RareSats.Proofs.Table
import RareSats.Proofs.Traced
import RareSats.Query.Tabled

namespace RareSats

/-! ### Tables of the curated intervals -/

/-- The table is one of the curated intervals, built or not. -/
def RangeTable.IsCurated (t : RangeTable) : Prop :=
  t.Serves initialSubsidy [(.pizza, pizzaRanges.map Chunk.bounds)]

theorem curatedTable_isCurated : curatedTable.IsCurated := by
  have hkind : ([(RarityKind.pizza, pizzaRanges.map Chunk.bounds)].map (·.1)).Nodup :=
    List.nodup_singleton _
  exact RangeTable.serves_ofWritten hkind initialSubsidy

namespace RangeTable.IsCurated

variable {t : RangeTable}

theorem tables_eq (h : t.IsCurated) : t.tables = curatedBuckets := by
  have hfresh : curatedBuckets = _ := Serves.tables_eq curatedTable_isCurated
  rw [hfresh]
  exact Serves.tables_eq h

theorem exists_tables (h : t.IsCurated) : ∃ tables, t.tables = .ok tables := by
  obtain ⟨buckets, hbuckets⟩ := pizzaRanges_bucketed
  have hbuilt : curatedBuckets = _ := tables_ofSources hbuckets
  exact ⟨_, h.tables_eq.trans hbuilt⟩

theorem rangesAt_eq (h : t.IsCurated) (kind : RarityKind) :
    t.rangesAt kind = curatedRanges kind := by
  funext height
  unfold RangeTable.rangesAt curatedRanges
  rw [h.tables_eq]

theorem isBuilt_rangesAt (h : t.IsCurated) (kind : RarityKind) (height : Int) :
    (t.step (.rangesAt kind height)).2.isBuilt = true := by
  obtain ⟨tables, htables⟩ := h.exists_tables
  have hbuilt := isBuilt_step_of_ok htables (.rangesAt kind height)
  exact hbuilt.mpr (Or.inr (by simp))

end RangeTable.IsCurated

/-! ### Sequences -/

namespace Tabled

variable {α β γ : Type} {x : Tabled α} {t : RangeTable}

theorem pure_apply (a : α) (t : RangeTable) : (pure a : Tabled α) t = (pure a, t) := rfl

theorem bind_of_ok {a : α} (h : (x t).1.outcome = .ok a) (f : α → Tabled β) :
    (x >>= f) t =
      (⟨(x t).1.lookups ++ (f a (x t).2).1.lookups, (f a (x t).2).1.outcome⟩, (f a (x t).2).2) := by
  show x.bind f t = _
  unfold Tabled.bind
  simp only [h]

theorem bind_of_error {e : Error} (h : (x t).1.outcome = .error e) (f : α → Tabled β) :
    (x >>= f) t = (⟨(x t).1.lookups, .error e⟩, (x t).2) := by
  show x.bind f t = _
  unfold Tabled.bind
  simp only [h]

instance : LawfulMonad Tabled := by
  refine LawfulMonad.mk' Tabled (fun x => ?_) (fun a f => ?_) (fun x f g => ?_)
  · funext t
    show (x >>= pure) t = x t
    cases hx : (x t).1.outcome with
    | ok a => rw [bind_of_ok hx, pure_apply, Traced.lookups_pure, List.append_nil,
        Traced.outcome_pure, ← hx]
    | error e => rw [bind_of_error hx, ← hx]
  · funext t
    rw [bind_of_ok (a := a) rfl]
    rfl
  · funext t
    cases hx : (x t).1.outcome with
    | error e =>
      have hxf : ((x >>= f) t).1.outcome = .error e := by rw [bind_of_error hx]
      rw [bind_of_error hxf, bind_of_error hx, bind_of_error hx]
    | ok a =>
      rw [bind_of_ok hx (fun a => f a >>= g)]
      cases hf : (f a (x t).2).1.outcome with
      | error e =>
        have hxf : ((x >>= f) t).1.outcome = .error e := by rw [bind_of_ok hx, hf]
        rw [bind_of_error hxf, bind_of_error hf, bind_of_ok hx]
      | ok b =>
        have hxf : ((x >>= f) t).1.outcome = .ok b := by rw [bind_of_ok hx, hf]
        rw [bind_of_ok hxf, bind_of_ok hf, bind_of_ok hx, List.append_assoc]

end Tabled

theorem Traced.lift_bind {α β : Type} (x : Except Error α) (f : α → Except Error β) :
    Traced.lift (x >>= f) = Traced.lift x >>= fun a => Traced.lift (f a) := by
  cases x <;> rfl

/-- Computations for the members of a list, one after the other, come to a member of a kind. -/
def ComesTo {α β : Type} (f : α → Traced β) (p : α → Prop) (xs : List α) : Prop :=
  ∃ before x after, xs = before ++ x :: after ∧ (∀ b ∈ before, ∃ y, (f b).outcome = .ok y) ∧ p x

section

variable {α β : Type} {f : α → Traced β} {p : α → Prop} {x : α} {xs : List α}

theorem not_comesTo_nil : ¬ ComesTo f p [] := by
  rintro ⟨before, x, after, h, -⟩
  simp at h

theorem comesTo_cons :
    ComesTo f p (x :: xs) ↔ p x ∨ (∃ y, (f x).outcome = .ok y) ∧ ComesTo f p xs := by
  constructor
  · rintro ⟨_ | ⟨b, before⟩, y, after, h, hbefore, hy⟩
    · obtain ⟨rfl, -⟩ := List.cons.inj h
      exact Or.inl hy
    · obtain ⟨rfl, rfl⟩ := List.cons.inj h
      rw [List.forall_mem_cons] at hbefore
      exact Or.inr ⟨hbefore.1, before, y, after, rfl, hbefore.2, hy⟩
  · rintro (hx | ⟨hx, before, y, after, rfl, hbefore, hy⟩)
    · exact ⟨[], x, xs, rfl, by simp, hx⟩
    · exact ⟨x :: before, y, after, rfl, List.forall_mem_cons.mpr ⟨hx, hbefore⟩, hy⟩

end

/-! ### Computations over a table and without one -/

/-- Over a table of the curated intervals, `x` does what `y` does and leaves such a table, which is
built if it was before or if `asks`. -/
structure Mirrors {α : Type} (x : Tabled α) (y : Traced α) (asks : Prop) : Prop where
  traced_eq : ∀ {t}, t.IsCurated → (x t).1 = y
  isCurated : ∀ {t}, t.IsCurated → (x t).2.IsCurated
  isBuilt_iff : ∀ {t}, t.IsCurated → ((x t).2.isBuilt = true ↔ t.isBuilt = true ∨ asks)

namespace Mirrors

variable {α β : Type} {x : Tabled α} {y : Traced α} {asks asks' : Prop}

theorem of_iff (h : Mirrors x y asks) (hasks : asks ↔ asks') : Mirrors x y asks' := by
  rwa [propext hasks] at h

theorem lift (y : Traced α) : Mirrors (Tabled.lift y) y False where
  traced_eq _ := rfl
  isCurated ht := ht
  isBuilt_iff _ := by simp [Tabled.lift]

theorem pure (a : α) : Mirrors (Pure.pure a) (Pure.pure a) False :=
  lift (Pure.pure a)

theorem curated (kind : RarityKind) (q : QueryRange) :
    Mirrors (Tabled.curated kind q) (Traced.lift (evaluateCurated kind (curatedRanges kind) q))
      True where
  traced_eq ht := by
    unfold Tabled.curated
    rw [ht.rangesAt_eq]
  isCurated ht := ht.step _
  isBuilt_iff ht := by
    have hbuilt := ht.isBuilt_rangesAt kind q.height
    simpa [Tabled.curated] using hbuilt

/-- **Sequencing.** What comes next asks the table only if there is a value to go on with. -/
theorem bind (hx : Mirrors x y asks) {f : α → Tabled β} {g : α → Traced β} {asksNext : α → Prop}
    (hf : ∀ a, Mirrors (f a) (g a) (asksNext a)) :
    Mirrors (x >>= f) (y >>= g) (asks ∨ ∃ a, y.outcome = .ok a ∧ asksNext a) := by
  cases hy : y.outcome with
  | error e =>
    have hbind : ∀ {t : RangeTable}, t.IsCurated →
        (x >>= f) t = (⟨y.lookups, .error e⟩, (x t).2) := by
      intro t ht
      have hxt := hx.traced_eq ht
      rw [Tabled.bind_of_error (by rw [hxt, hy]), hxt]
    constructor
    · intro t ht
      rw [hbind ht, Traced.bind_of_error hy]
    · intro t ht
      rw [hbind ht]
      exact hx.isCurated ht
    · intro t ht
      rw [hbind ht, hx.isBuilt_iff ht]
      simp
  | ok a =>
    have hbind : ∀ {t : RangeTable}, t.IsCurated → (x >>= f) t =
        (⟨y.lookups ++ (f a (x t).2).1.lookups, (f a (x t).2).1.outcome⟩, (f a (x t).2).2) := by
      intro t ht
      have hxt := hx.traced_eq ht
      rw [Tabled.bind_of_ok (by rw [hxt, hy]), hxt]
    constructor
    · intro t ht
      rw [hbind ht, Traced.bind_of_ok hy, (hf a).traced_eq (hx.isCurated ht)]
    · intro t ht
      rw [hbind ht]
      exact (hf a).isCurated (hx.isCurated ht)
    · intro t ht
      rw [hbind ht, (hf a).isBuilt_iff (hx.isCurated ht), hx.isBuilt_iff ht]
      simp [or_assoc]

/-- A list of computations asks the table if it comes to one that does. -/
theorem mapM {f : α → Tabled β} {g : α → Traced β} {asksFor : α → Prop}
    (h : ∀ a, Mirrors (f a) (g a) (asksFor a)) (xs : List α) :
    Mirrors (xs.mapM f) (xs.mapM g) (ComesTo g asksFor xs) := by
  induction xs with
  | nil =>
    rw [List.mapM_nil, List.mapM_nil]
    exact (pure []).of_iff (iff_of_false id not_comesTo_nil)
  | cons a xs ih =>
    rw [List.mapM_cons, List.mapM_cons]
    have hstep := (h a).bind fun b => ih.bind fun bs => pure (b :: bs)
    refine hstep.of_iff ?_
    rw [comesTo_cons]
    simp

end Mirrors

/-! ### Reports -/

theorem mirrors_evaluate (kind : RarityKind) (q : QueryRange) :
    Mirrors (evaluateOn kind q) (Traced.lift (evaluate kind q)) (kind = .pizza) := by
  by_cases hkind : kind = .pizza
  · subst hkind
    have hcurated := Mirrors.curated .pizza q
    exact hcurated.of_iff (by simp)
  · have hlift : evaluateOn kind q = Tabled.lift (Traced.lift (evaluate kind q)) := by
      cases kind with
      | pizza => exact absurd rfl hkind
      | _ => rfl
    rw [hlift]
    exact (Mirrors.lift _).of_iff (by simp [hkind])

theorem mirrors_evaluateAll (q : QueryRange) (kinds : List RarityKind) :
    Mirrors (evaluateAllOn q kinds) (Traced.lift (evaluateAll q kinds))
      (ComesTo (fun kind => Traced.lift (evaluate kind q)) (· = .pizza) kinds) := by
  induction kinds with
  | nil => exact (Mirrors.pure []).of_iff (iff_of_false id not_comesTo_nil)
  | cons kind rest ih =>
    unfold evaluateAllOn evaluateAll
    simp only [Traced.lift_bind]
    have hstep := (mirrors_evaluate kind q).bind fun entries =>
      ih.bind fun others => Mirrors.pure (entries ++ others)
    refine hstep.of_iff ?_
    rw [comesTo_cons]
    simp

theorem comesTo_pizza (q : QueryRange) :
    ComesTo (fun kind => Traced.lift (evaluate kind q)) (· = .pizza) RarityKind.evaluated := by
  refine ⟨[.vintage, .nakamoto, .block9, .block78, .firstTransaction], .pizza, _, rfl, ?_, rfl⟩
  intro kind hkind
  simp only [List.mem_cons, List.not_mem_nil, or_false] at hkind
  by_cases hheight : q.height = 9
  · rcases hkind with rfl | rfl | rfl | rfl | rfl <;> simp [Traced.lift, evaluate, hheight]
  · rcases hkind with rfl | rfl | rfl | rfl | rfl <;> simp [Traced.lift, evaluate, hheight]

/-- **A report asks the table**, whatever becomes of it. -/
theorem mirrors_report (q : QueryRange) :
    Mirrors (reportOn q) (Traced.lift (reportOf q)) True := by
  unfold reportOn reportOf
  rw [Traced.lift_bind]
  have hstep := (mirrors_evaluateAll q RarityKind.evaluated).bind fun entries =>
    Mirrors.pure (entries.filter fun e => !e.chunks.isEmpty)
  exact hstep.of_iff (by simp [comesTo_pizza q])

/-! ### References -/

/-- A range asks the table if it is one of one block. -/
theorem mirrors_resolveRange (source : SatSource) (reference : Text) (c : Chunk) :
    Mirrors (resolveRangeOn source reference c) (resolveRange source reference c)
      (∃ q, QueryRange.of c.lo c.hi = .ok q) := by
  unfold resolveRangeOn resolveRange
  have hstep := (Mirrors.lift (Traced.lift (QueryRange.of c.lo c.hi))).bind fun q =>
    (mirrors_report q).bind fun rarities =>
      (Mirrors.lift (Traced.ask (.blockHash q.height)
        (outcomeFor reference (source.blockHash q.height)))).bind fun hash =>
          Mirrors.pure (⟨c.lo, c.hi, rarities, q.height, hash⟩ : RangeReport)
  exact hstep.of_iff (by simp [Traced.lift])

/-- The ranges of a reference are looked up, and resolving them in their order comes to one of one
block. -/
def SatSource.ReachesIn (source : SatSource) (reference : Text) : Prop :=
  ∃ outpoint chunks, OutPoint.parse reference = .ok outpoint ∧
    source.listRanges outpoint = .ok chunks ∧
    ComesTo (resolveRange source reference) (fun c => ∃ q, QueryRange.of c.lo c.hi = .ok q) chunks

theorem mirrors_resolve (source : SatSource) (reference : Text) :
    Mirrors (resolveOn source reference) (resolve source reference)
      (source.ReachesIn reference) := by
  unfold resolveOn resolve
  have hstep := (Mirrors.lift (Traced.lift (OutPoint.parse reference))).bind fun outpoint =>
    (Mirrors.lift (Traced.ask (.listRanges outpoint)
      (outcomeFor reference (source.listRanges outpoint)))).bind fun chunks =>
        (Mirrors.mapM (mirrors_resolveRange source reference) chunks).bind fun ranges =>
          (Mirrors.lift (Traced.lift (namedSats chunks))).bind fun named =>
            (Mirrors.lift (named.mapM describe)).bind fun described =>
              Mirrors.pure (⟨reference, ranges, described⟩ : ReferenceResult)
  refine hstep.of_iff ?_
  simp [SatSource.ReachesIn, Traced.lift, Traced.ask, outcomeFor_eq_ok_iff]

/-- Resolving the references of a batch in their order comes to a range of one block. -/
def SatSource.Reaches (source : SatSource) (references : List Text) : Prop :=
  source.tracksSats = true ∧ ComesTo (resolve source) source.ReachesIn references

/-- **A batch is resolved over a table as with the intervals at hand**, and asks the table if it
comes to a range of one block. -/
theorem mirrors_resolveAll (source : SatSource) (references : List Text) :
    Mirrors (resolveAllOn source references) (resolveAll source references)
      (source.Reaches references) := by
  unfold resolveAllOn resolveAll SatSource.Reaches
  by_cases htracks : source.tracksSats = true
  · rw [if_pos htracks, if_pos htracks]
    have hbatch := Mirrors.mapM (mirrors_resolve source) references
    exact hbatch.of_iff (by simp [htracks])
  · rw [if_neg htracks, if_neg htracks]
    exact (Mirrors.lift _).of_iff (by simp [htracks])

end RareSats
