/-
# Computations that leave a trace

A traced computation gives a value or an error, together with the lookups that it
made on the way. After an error nothing more is looked up.

Key definitions: `Lookup`, `Traced`, `Traced.bind`, `Traced.lift`, `Traced.ask`.
Key theorem: `Traced.bind_assoc`.
-/
import RareSats.OutPoint

namespace RareSats

/-- A lookup that was made. -/
inductive Lookup where
  | listRanges (outpoint : OutPoint)
  | blockHash (height : Int)
  | metadata (sat : Int)
deriving DecidableEq, Repr

/-- An outcome, and the lookups that were made for it in their order. -/
structure Traced (α : Type) where
  lookups : List Lookup
  outcome : Except Error α

namespace Traced

variable {α β γ : Type}

/-- A value without a lookup. -/
protected def pure (a : α) : Traced α := ⟨[], .ok a⟩

/-- One computation after another. The second one is made only if the first one gives a value. -/
protected def bind (x : Traced α) (f : α → Traced β) : Traced β :=
  match x.outcome with
  | .ok a => ⟨x.lookups ++ (f a).lookups, (f a).outcome⟩
  | .error e => ⟨x.lookups, .error e⟩

/-- An outcome without a lookup. -/
def lift (outcome : Except Error α) : Traced α := ⟨[], outcome⟩

/-- The outcome of one lookup. -/
def ask (lookup : Lookup) (outcome : Except Error α) : Traced α := ⟨[lookup], outcome⟩

instance : Monad Traced where
  pure := Traced.pure
  bind := Traced.bind

theorem pure_bind (a : α) (f : α → Traced β) : (Traced.pure a).bind f = f a := by
  simp [Traced.pure, Traced.bind]

theorem bind_pure (x : Traced α) : x.bind Traced.pure = x := by
  rcases x with ⟨lookups, a | e⟩ <;> simp [Traced.pure, Traced.bind]

/-- Computations are sequenced alike however they are grouped. -/
theorem bind_assoc (x : Traced α) (f : α → Traced β) (g : β → Traced γ) :
    (x.bind f).bind g = x.bind fun a => (f a).bind g := by
  rcases x with ⟨lookups, e | a⟩
  · simp [Traced.bind]
  · rcases hf : f a with ⟨more, e | b⟩ <;> simp [Traced.bind, hf]

instance : LawfulMonad Traced :=
  LawfulMonad.mk' Traced bind_pure pure_bind bind_assoc

end Traced

end RareSats
