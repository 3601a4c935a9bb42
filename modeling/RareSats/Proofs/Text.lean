/-
# Texts without surrogates

A text is that of a string exactly if none of its code points is a surrogate. Such
texts are closed under concatenation, and they are those that have an encoding. A surrogate
leaves replacement characters where a text is repaired, so a text without these is that of a
string too.

Key definition: `Text.IsUnicode`.
Key theorems: `Text.isUnicode_iff_forall`, `Text.encodingFault?_eq_none_iff`,
`Text.eq_ofString_of_repaired`.
-/
import RareSats.Error

namespace RareSats.Text

/-- A text that is one of characters only. -/
def IsUnicode (t : Text) : Prop :=
  ∃ s : String, t = ofString s

theorem isUnicode_ofString (s : String) : (ofString s).IsUnicode :=
  ⟨s, rfl⟩

theorem isUnicode_iff_forall {t : Text} :
    t.IsUnicode ↔ ∀ p ∈ t.points, p.isSurrogate = false := by
  constructor
  · rintro ⟨s, rfl⟩ p hp
    obtain ⟨c, -, rfl⟩ := List.mem_map.mp hp
    rfl
  · intro h
    suffices hchars : ∃ cs : List Char, t.points = cs.map .scalar by
      obtain ⟨cs, hcs⟩ := hchars
      refine ⟨String.ofList cs, ?_⟩
      rw [ofString, String.toList_ofList, ← hcs]
    generalize t.points = points at h
    induction points with
    | nil => exact ⟨[], rfl⟩
    | cons p rest ih =>
      rw [List.forall_mem_cons] at h
      obtain ⟨cs, rfl⟩ := ih h.2
      cases p with
      | scalar c => exact ⟨c :: cs, rfl⟩
      | surrogate offset => cases h.1

theorem IsUnicode.append {a b : Text} (ha : a.IsUnicode) (hb : b.IsUnicode) :
    (a ++ b).IsUnicode := by
  rw [isUnicode_iff_forall] at ha hb ⊢
  intro p hp
  exact (List.mem_append.mp hp).elim (ha p) (hb p)

theorem string?_isSome_iff {t : Text} : t.string?.isSome = true ↔ t.IsUnicode := by
  constructor
  · intro h
    rw [isUnicode_iff_forall]
    unfold string? at h
    rw [Option.isSome_map] at h
    generalize t.points = points at h
    induction points with
    | nil => exact fun p hp => absurd hp List.not_mem_nil
    | cons p rest ih =>
      cases p with
      | surrogate offset => cases h
      | scalar c =>
        rw [List.mapM_cons] at h
        rw [List.forall_mem_cons]
        refine ⟨rfl, ih ?_⟩
        cases hrest : rest.mapM CodePoint.char? with
        | none =>
          rw [hrest] at h
          cases h
        | some cs => rfl
  · rintro ⟨s, rfl⟩
    rw [string?_ofString]
    rfl

theorem surrogateRun?_eq_none {passed : CodePoint → Bool} {points : List CodePoint}
    (h : ∀ p ∈ points, p.isSurrogate = false) (position : Nat) :
    surrogateRun? passed position points = none := by
  induction points generalizing position with
  | nil => rfl
  | cons p rest ih =>
    rw [List.forall_mem_cons] at h
    rw [surrogateRun?, h.1, Bool.false_and, if_neg Bool.false_ne_true, ih h.2]

/-- Where no surrogate is passed on, one that is there is found. -/
theorem forall_of_surrogateRun? {points : List CodePoint} {position : Nat}
    (h : surrogateRun? (fun _ => false) position points = none) :
    ∀ p ∈ points, p.isSurrogate = false := by
  induction points generalizing position with
  | nil => exact List.forall_mem_nil _
  | cons p rest ih =>
    rw [surrogateRun?] at h
    split at h
    · cases h
    · rename_i hpoint
      rw [Bool.not_false, Bool.and_true, Bool.not_eq_true] at hpoint
      exact List.forall_mem_cons.mpr ⟨hpoint, ih h⟩

/-- **A text has an encoding exactly if it is one of characters only.** -/
theorem encodingFault?_eq_none_iff {t : Text} :
    t.encodingFault? (fun _ => false) = none ↔ t.IsUnicode := by
  rw [encodingFault?, Option.map_eq_none_iff, isUnicode_iff_forall]
  exact ⟨forall_of_surrogateRun?, fun h => surrogateRun?_eq_none h 0⟩

/-- A text is that of its repaired string if there is no replacement character in it. -/
theorem eq_ofString_of_repaired {t : Text} {s : List Char} (h : t.repaired.toList = s)
    (hs : '\ufffd' ∉ s) : t = ofString (String.ofList s) := by
  have hunicode : t.IsUnicode := by
    rw [isUnicode_iff_forall]
    intro p hp
    cases p with
    | scalar c => rfl
    | surrogate offset =>
      refine absurd ?_ hs
      rw [← h, repaired, String.toList_ofList]
      exact List.mem_flatMap.mpr ⟨_, hp, List.mem_cons_self⟩
  obtain ⟨s', rfl⟩ := hunicode
  rw [repaired_ofString] at h
  rw [← h, String.ofList_toList]

end RareSats.Text
