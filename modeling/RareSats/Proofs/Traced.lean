/-
# Sequences of traced computations

A sequence gives a value exactly if each of its parts does, and then it has made
the lookups of all of them. If a part fails, the sequence fails alike, with the
lookups made up to there.

Key definitions: `Traced.append`, `Traced.forget`.
Key theorems: `Traced.outcome_mapM_eq_ok_iff`, `Traced.exists_outcome_mapM_iff`,
`Traced.outcome_mapM_eq_error_iff`, `Traced.mapM_append`.
-/
import Mathlib.Data.List.Forall2
import RareSats.Query.Traced

namespace RareSats
namespace Traced

variable {α β : Type}

theorem outcome_pure (a : α) : (pure a : Traced α).outcome = .ok a := rfl

theorem lookups_pure (a : α) : (pure a : Traced α).lookups = [] := rfl

theorem bind_of_ok {x : Traced α} {a : α} (h : x.outcome = .ok a) (f : α → Traced β) :
    x >>= f = ⟨x.lookups ++ (f a).lookups, (f a).outcome⟩ := by
  show x.bind f = _
  rw [Traced.bind, h]

theorem bind_of_error {x : Traced α} {e : Error} (h : x.outcome = .error e) (f : α → Traced β) :
    x >>= f = ⟨x.lookups, .error e⟩ := by
  show x.bind f = _
  rw [Traced.bind, h]

theorem outcome_bind_eq_ok_iff {x : Traced α} {f : α → Traced β} {b : β} :
    (x >>= f).outcome = .ok b ↔ ∃ a, x.outcome = .ok a ∧ (f a).outcome = .ok b := by
  cases hx : x.outcome with
  | ok a =>
    rw [bind_of_ok hx]
    exact ⟨fun h => ⟨a, rfl, h⟩, fun ⟨_, ha, h⟩ => by cases ha; exact h⟩
  | error e =>
    rw [bind_of_error hx]
    exact iff_of_false (fun h => by cases h) (fun ⟨_, ha, _⟩ => by cases ha)

theorem outcome_bind_eq_error_iff {x : Traced α} {f : α → Traced β} {e : Error} :
    (x >>= f).outcome = .error e ↔
      x.outcome = .error e ∨ ∃ a, x.outcome = .ok a ∧ (f a).outcome = .error e := by
  cases hx : x.outcome with
  | ok a =>
    rw [bind_of_ok hx]
    refine ⟨fun h => ?_, fun h' => ?_⟩
    · exact Or.inr ⟨a, rfl, h⟩
    · rcases h' with h | ⟨_, ha, h⟩
      · cases h
      · cases ha
        exact h
  | error e' =>
    rw [bind_of_error hx]
    refine ⟨fun h => ?_, fun h' => ?_⟩
    · cases h
      exact Or.inl rfl
    · rcases h' with h | ⟨_, ha, _⟩
      · cases h
        rfl
      · cases ha

theorem outcome_mapM_eq_ok_iff {f : α → Traced β} {xs : List α} {ys : List β} :
    (xs.mapM f).outcome = .ok ys ↔ List.Forall₂ (fun x y => (f x).outcome = .ok y) xs ys := by
  induction xs generalizing ys with
  | nil =>
    rw [List.mapM_nil, outcome_pure]
    refine ⟨fun h => ?_, fun h => ?_⟩
    · cases h
      exact .nil
    · cases h
      rfl
  | cons x xs ih =>
    simp only [List.mapM_cons, outcome_bind_eq_ok_iff, outcome_pure, ih]
    refine ⟨fun h => ?_, fun h => ?_⟩
    · obtain ⟨y, hy, rest, hrest, ⟨⟩⟩ := h
      exact .cons hy hrest
    · rcases h with _ | ⟨hy, hrest⟩
      exact ⟨_, hy, _, hrest, rfl⟩

theorem exists_outcome_mapM_iff {f : α → Traced β} {xs : List α} :
    (∃ ys, (xs.mapM f).outcome = .ok ys) ↔ ∀ x ∈ xs, ∃ y, (f x).outcome = .ok y := by
  simp only [outcome_mapM_eq_ok_iff]
  induction xs with
  | nil => exact iff_of_true ⟨[], .nil⟩ fun x hx => absurd hx List.not_mem_nil
  | cons x xs ih =>
    rw [List.forall_mem_cons, ← ih]
    refine ⟨fun h => ?_, fun h => ?_⟩
    · obtain ⟨_, _ | ⟨hy, hrest⟩⟩ := h
      exact ⟨⟨_, hy⟩, _, hrest⟩
    · obtain ⟨⟨y, hy⟩, rest, hrest⟩ := h
      exact ⟨y :: rest, .cons hy hrest⟩

/-- A computation for each member of a list fails as it does for the first member that fails. -/
theorem outcome_mapM_eq_error_iff {f : α → Traced β} {xs : List α} {e : Error} :
    (xs.mapM f).outcome = .error e ↔ ∃ before x after, xs = before ++ x :: after ∧
      (∀ b ∈ before, ∃ y, (f b).outcome = .ok y) ∧ (f x).outcome = .error e := by
  induction xs with
  | nil =>
    rw [List.mapM_nil, outcome_pure]
    refine iff_of_false (fun h => by cases h) ?_
    rintro ⟨before, x, after, h, -⟩
    cases before <;> cases h
  | cons x xs ih =>
    simp only [List.mapM_cons, outcome_bind_eq_error_iff, outcome_pure, ih]
    refine ⟨fun h' => ?_, fun h' => ?_⟩
    · rcases h' with hx | ⟨y, hy, ⟨before, x', after, rfl, hbefore, hx'⟩ | ⟨_, _, h⟩⟩
      · exact ⟨[], x, xs, rfl, fun b hb => absurd hb List.not_mem_nil, hx⟩
      · refine ⟨x :: before, x', after, rfl, ?_, hx'⟩
        rw [List.forall_mem_cons]
        exact ⟨⟨y, hy⟩, hbefore⟩
      · cases h
    · obtain ⟨_ | ⟨b, before⟩, x', after, h, hbefore, hx'⟩ := h'
      · cases h
        exact Or.inl hx'
      · cases h
        rw [List.forall_mem_cons] at hbefore
        obtain ⟨⟨y, hy⟩, hbefore⟩ := hbefore
        exact Or.inr ⟨y, hy, Or.inl ⟨before, x', after, rfl, hbefore, hx'⟩⟩

/-- Two computations of lists, one after the other, and the values of both in one list. -/
protected def append (x y : Traced (List α)) : Traced (List α) :=
  match x.outcome, y.outcome with
  | .error e, _ => ⟨x.lookups, .error e⟩
  | .ok _, .error e => ⟨x.lookups ++ y.lookups, .error e⟩
  | .ok as, .ok bs => ⟨x.lookups ++ y.lookups, .ok (as ++ bs)⟩

theorem append_eq_bind (x y : Traced (List α)) :
    x.append y = do
      let as ← x
      let bs ← y
      return as ++ bs := by
  cases hx : x.outcome with
  | error e => rw [bind_of_error hx, Traced.append, hx]
  | ok as =>
    rw [bind_of_ok hx, Traced.append, hx]
    cases hy : y.outcome with
    | error e => rw [bind_of_error hy]
    | ok bs =>
      rw [bind_of_ok hy, lookups_pure, List.append_nil]
      rfl

theorem mapM_append (f : α → Traced β) (xs ys : List α) :
    (xs ++ ys).mapM f = (xs.mapM f).append (ys.mapM f) := by
  rw [List.mapM_append, append_eq_bind]

/-- A computation without its value. -/
def forget (x : Traced α) : Traced Unit :=
  ⟨x.lookups, x.outcome.map fun _ => ()⟩

theorem forget_of_ok {x : Traced α} {a : α} (h : x.outcome = .ok a) :
    x.forget = ⟨x.lookups, .ok ()⟩ := by
  rw [forget, h]
  rfl

theorem forget_of_error {x : Traced α} {e : Error} (h : x.outcome = .error e) :
    x.forget = ⟨x.lookups, .error e⟩ := by
  rw [forget, h]
  rfl

theorem exists_eq_of_forget_eq_ok {x : Traced α} {lookups : List Lookup}
    (h : x.forget = ⟨lookups, .ok ()⟩) : ∃ a, x = ⟨lookups, .ok a⟩ := by
  rcases x with ⟨made, a | e⟩
  · cases h
  · cases h
    exact ⟨_, rfl⟩

theorem eq_of_forget_eq_error {x : Traced α} {lookups : List Lookup} {e : Error}
    (h : x.forget = ⟨lookups, .error e⟩) : x = ⟨lookups, .error e⟩ := by
  rcases x with ⟨made, a | e'⟩
  · cases h
    rfl
  · cases h

theorem forget_bind (x : Traced α) (f : α → Traced β) :
    (x >>= f).forget = x >>= fun a => (f a).forget := by
  cases hx : x.outcome with
  | ok a =>
    rw [bind_of_ok hx, bind_of_ok hx]
    rfl
  | error e =>
    rw [bind_of_error hx, bind_of_error hx]
    rfl

/-- What comes next may use that there is a value, but not the value. -/
theorem bind_eq_forget_bind {x : Traced α} {f : α → Traced β} {y : Traced β}
    (h : ∀ a, x.outcome = .ok a → f a = y) : x >>= f = x.forget >>= fun _ => y := by
  cases hx : x.outcome with
  | ok a =>
    have hforget : x.forget.outcome = .ok () := by rw [forget_of_ok hx]
    rw [bind_of_ok hx, h a hx, bind_of_ok hforget, forget_of_ok hx]
  | error e =>
    have hforget : x.forget.outcome = .error e := by rw [forget_of_error hx]
    rw [bind_of_error hx, bind_of_error hforget, forget_of_error hx]

theorem forget_bind_pure (x : Traced α) (g : α → β) :
    (x >>= fun a => pure (g a)).forget = x.forget := by
  cases hx : x.outcome with
  | ok a =>
    rw [bind_of_ok hx, forget_of_ok hx, lookups_pure, List.append_nil]
    rfl
  | error e =>
    rw [bind_of_error hx, forget_of_error hx]
    rfl

end Traced

end RareSats
