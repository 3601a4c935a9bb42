/-
# Maps that keep the order of their keys

A map is the list of its entries, in the order in which their keys first came. A
later value for a key takes the place of the earlier one.

Key definitions: `putEntry`, `mapOfEntries`.
Key theorem: `lookup_putEntry`.
-/

namespace RareSats

variable {α β : Type} [DecidableEq α]

/-- The map with the value `v` for the key `k`. -/
def putEntry (k : α) (v : β) : List (α × β) → List (α × β)
  | [] => [(k, v)]
  | e :: m => if e.1 = k then (k, v) :: m else e :: putEntry k v m

/-- The map of entries in their order. -/
def mapOfEntries (entries : List (α × β)) : List (α × β) :=
  entries.foldl (fun m e => putEntry e.1 e.2 m) []

/-- The new value is found under its key, and nothing changes under the others. -/
theorem lookup_putEntry (k : α) (v : β) (m : List (α × β)) (k' : α) :
    (putEntry k v m).lookup k' = if k' = k then some v else m.lookup k' := by
  induction m with
  | nil =>
    by_cases h : k' = k
    · simp [putEntry, h]
    · simp [putEntry, List.lookup_cons, h, beq_false_of_ne h]
  | cons e m ih =>
    obtain ⟨key, value⟩ := e
    unfold putEntry
    by_cases he : key = k
    · subst he
      by_cases h : k' = key
      · simp [h]
      · simp [List.lookup_cons, h, beq_false_of_ne h]
    · by_cases h : k' = key
      · subst h
        simp [he]
      · simp [he, List.lookup_cons, beq_false_of_ne h, ih]

end RareSats
