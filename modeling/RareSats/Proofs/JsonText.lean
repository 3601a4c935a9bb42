/-
# Values are read as they were written

A value is plain if its integers are short and its only numbers, if no text in it holds a
surrogate, and if the members of an object have different names. The text of such a value
is read as the value, where as many levels of brackets are followed as it has
(`Json.readUnicode_render`).

What is written starts with a character that the reader takes neither for a blank nor for a
closing bracket (`Json.StartsValue`). So each step of the reader is one of few
(`Json.readItems_next`, `Json.readMembers_next`, `Json.readValue_arr`), and the value is read
along its parts.

Key definitions: `Json.IsPlain`, `Json.itemsPoints`, `Json.membersPoints`,
`Json.StartsValue`.
Key theorems: `Json.readValue_render`, `Json.readUnicode_render`.
-/
import RareSats.Proofs.JsonScalars
import RareSats.Proofs.OrderedMap
import RareSats.Proofs.Sending

namespace RareSats
namespace Json

variable {s : Input}

/-! ### Values -/

mutual

/-- A value that is read from its text: its integers are short, it has no other number, no text in
it holds a surrogate, and the members of an object have different names. -/
def IsPlain : Json → Prop
  | null => True
  | bool _ => True
  | int n => n.natAbs < 10 ^ Error.digitLimit
  | float _ => False
  | str t => t.IsUnicode
  | arr items => ItemsPlain items
  | obj members => (members.map (·.1)).Nodup ∧ MembersPlain members

/-- Values that are read from their texts. -/
def ItemsPlain : List Json → Prop
  | [] => True
  | j :: rest => j.IsPlain ∧ ItemsPlain rest

/-- Members that are read from their texts. -/
def MembersPlain : List (Text × Json) → Prop
  | [] => True
  | (name, j) :: rest => name.IsUnicode ∧ j.IsPlain ∧ MembersPlain rest

end

theorem itemsPlain_iff {items : List Json} : ItemsPlain items ↔ ∀ j ∈ items, j.IsPlain := by
  induction items with
  | nil => simp [ItemsPlain]
  | cons j rest ih => rw [ItemsPlain, List.forall_mem_cons, ih]

theorem membersPlain_iff {members : List (Text × Json)} :
    MembersPlain members ↔ ∀ m ∈ members, m.1.IsUnicode ∧ m.2.IsPlain := by
  induction members with
  | nil => simp [MembersPlain]
  | cons m rest ih => rw [MembersPlain, List.forall_mem_cons, ih, and_assoc]

/-- The text of items up to the closing bracket of their array. -/
def itemsPoints : List Json → Input
  | [] => [.scalar ']']
  | [j] => pointsOf j.render ++ [.scalar ']']
  | j :: k :: rest => pointsOf j.render ++ .scalar ',' :: itemsPoints (k :: rest)

/-- The text of members up to the closing bracket of their object. -/
def membersPoints : List (Text × Json) → Input
  | [] => [.scalar '\x7d']
  | [(name, j)] => pointsOf (quote name) ++ .scalar ':' :: (pointsOf j.render ++ [.scalar '\x7d'])
  | (name, j) :: m :: rest =>
    pointsOf (quote name) ++ .scalar ':' ::
      (pointsOf j.render ++ .scalar ',' :: membersPoints (m :: rest))

theorem pointsOf_append (a b : String) : pointsOf (a ++ b) = pointsOf a ++ pointsOf b := by
  rw [pointsOf, String.toList_append, List.map_append]
  rfl

theorem itemsPoints_eq : ∀ items : List Json,
    pointsOf (String.intercalate "," (renderItems items)) ++ [.scalar ']'] = itemsPoints items
  | [] => rfl
  | [j] => by
    rw [renderItems, renderItems, String.intercalate_singleton]
    rfl
  | j :: k :: rest => by
    have ih := itemsPoints_eq (k :: rest)
    rw [renderItems] at ih ⊢
    rw [renderItems, String.intercalate_cons_cons, pointsOf_append, pointsOf_append,
      List.append_assoc, List.append_assoc, ih]
    rfl

theorem membersPoints_eq : ∀ members : List (Text × Json),
    pointsOf (String.intercalate "," (renderMembers members)) ++ [.scalar '\x7d'] =
      membersPoints members
  | [] => rfl
  | [(name, j)] => by
    rw [renderMembers, renderMembers, String.intercalate_singleton, pointsOf_append,
      pointsOf_append, List.append_assoc, List.append_assoc]
    rfl
  | (name, j) :: (name', j') :: rest => by
    have ih := membersPoints_eq ((name', j') :: rest)
    rw [renderMembers] at ih ⊢
    rw [renderMembers, String.intercalate_cons_cons, pointsOf_append, pointsOf_append,
      List.append_assoc, List.append_assoc, ih, pointsOf_append, pointsOf_append,
      List.append_assoc, List.append_assoc]
    rfl

theorem pointsOf_render_arr (items : List Json) :
    pointsOf (render (arr items)) = .scalar '[' :: itemsPoints items := by
  rw [render, pointsOf_append, pointsOf_append, ← itemsPoints_eq]
  rfl

theorem pointsOf_render_obj (members : List (Text × Json)) :
    pointsOf (render (obj members)) = .scalar '\x7b' :: membersPoints members := by
  rw [render, pointsOf_append, pointsOf_append, ← membersPoints_eq]
  rfl

/-! ### Where values start -/

/-- The input starts with a character that is neither blank nor a closing bracket. -/
def StartsValue (x : Input) : Prop :=
  ∃ c rest, x = .scalar c :: rest ∧ isBlank (.scalar c) = false ∧ c ≠ ']' ∧ c ≠ '\x7d'

theorem skipBlanks_of_head {c : Char} (hc : isBlank (.scalar c) = false) (s : Input) :
    skipBlanks (.scalar c :: s) = .scalar c :: s :=
  List.dropWhile_cons_of_neg (by simp [hc])

section

variable {x y z : Input}

theorem StartsValue.append (h : StartsValue x) (s : Input) : StartsValue (x ++ s) := by
  obtain ⟨c, rest, rfl, hc⟩ := h
  exact ⟨c, rest ++ s, rfl, hc⟩

theorem StartsValue.skipBlanks_eq (h : StartsValue x) : skipBlanks x = x := by
  obtain ⟨c, rest, rfl, hblank, -⟩ := h
  exact skipBlanks_of_head hblank rest

theorem StartsValue.ne_bracket (h : StartsValue x) (rest : Input) : x ≠ .scalar ']' :: rest := by
  obtain ⟨c, _, rfl, -, hc, -⟩ := h
  exact fun heq => hc (CodePoint.scalar.inj (List.cons.inj heq).1)

theorem StartsValue.ne_brace (h : StartsValue x) (rest : Input) : x ≠ .scalar '\x7d' :: rest := by
  obtain ⟨c, _, rfl, -, -, hc⟩ := h
  exact fun heq => hc (CodePoint.scalar.inj (List.cons.inj heq).1)

theorem startsValue_quote (t : Text) : StartsValue (pointsOf (quote t)) :=
  ⟨_, _, pointsOf_quote t, rfl, by decide, by decide⟩

theorem startsValue_render {j : Json} (h : j.IsPlain) : StartsValue (pointsOf j.render) := by
  cases j with
  | null => exact ⟨_, _, rfl, rfl, by decide, by decide⟩
  | bool b => cases b <;> exact ⟨_, _, rfl, rfl, by decide, by decide⟩
  | float x => exact absurd h id
  | str t => exact startsValue_quote t
  | arr items => exact ⟨_, _, pointsOf_render_arr items, rfl, by decide, by decide⟩
  | obj members => exact ⟨_, _, pointsOf_render_obj members, rfl, by decide, by decide⟩
  | int n =>
    obtain ⟨c, rest, hcons, hc⟩ := exists_pointsOf_int n
    have hall : ∀ k < 10, isBlank (.scalar (Nat.digitChar k)) = false ∧ Nat.digitChar k ≠ ']' ∧
        Nat.digitChar k ≠ '\x7d' := by decide
    rcases hc with hc | rfl
    · obtain ⟨d, hd, rfl⟩ := exists_digitChar_eq hc
      exact ⟨_, rest, hcons, hall d hd⟩
    · exact ⟨_, rest, hcons, rfl, by decide, by decide⟩

theorem startsValue_itemsPoints {items : List Json} (h : ItemsPlain items) (hne : items ≠ []) :
    StartsValue (itemsPoints items) := by
  rcases items with _ | ⟨j, _ | ⟨k, rest⟩⟩
  · exact absurd rfl hne
  · exact (startsValue_render h.1).append _
  · exact (startsValue_render h.1).append _

theorem startsValue_membersPoints {members : List (Text × Json)} (hne : members ≠ []) :
    StartsValue (membersPoints members) := by
  rcases members with _ | ⟨⟨name, j⟩, _ | ⟨m, rest⟩⟩
  · exact absurd rfl hne
  · exact (startsValue_quote name).append _
  · exact (startsValue_quote name).append _

/-! ### Steps of the reader -/

variable {steps depth : Nat} {j : Json} {name : Text} {items : List Json}
  {members sofar : List (Text × Json)}

theorem readItems_last (hvalue : readValue steps depth x = .ok (j, .scalar ']' :: s)) :
    readItems (steps + 1) depth x = .ok ([j], s) := by
  simp only [readItems, hvalue, bind, Except.bind, skipBlanks_of_head (c := ']') rfl]
  rfl

theorem readItems_next (hvalue : readValue steps depth x = .ok (j, .scalar ',' :: y))
    (hy : StartsValue y) (hrest : readItems steps depth y = .ok (items, s)) :
    readItems (steps + 1) depth x = .ok (j :: items, s) := by
  simp only [readItems, hvalue, bind, Except.bind, skipBlanks_of_head (c := ',') rfl,
    hy.skipBlanks_eq, hrest]
  rfl

theorem readMembers_last (hname : readText x = .ok (name, .scalar ':' :: y)) (hy : StartsValue y)
    (hvalue : readValue steps depth y = .ok (j, .scalar '\x7d' :: s)) :
    readMembers (steps + 1) depth sofar x = .ok (putEntry name j sofar, s) := by
  simp only [readMembers, hname, bind, Except.bind, skipBlanks_of_head (c := ':') rfl,
    hy.skipBlanks_eq, hvalue, skipBlanks_of_head (c := '\x7d') rfl]
  rfl

theorem readMembers_next (hname : readText x = .ok (name, .scalar ':' :: y)) (hy : StartsValue y)
    (hvalue : readValue steps depth y = .ok (j, .scalar ',' :: z)) (hz : StartsValue z)
    (hrest : readMembers steps depth (putEntry name j sofar) z = .ok (members, s)) :
    readMembers (steps + 1) depth sofar x = .ok (members, s) := by
  simp only [readMembers, hname, bind, Except.bind, skipBlanks_of_head (c := ':') rfl,
    hy.skipBlanks_eq, hvalue, skipBlanks_of_head (c := ',') rfl, hz.skipBlanks_eq, hrest]

theorem readValue_arr (hx : StartsValue x) (hitems : readItems steps depth x = .ok (items, s)) :
    readValue (steps + 1) (depth + 1) (.scalar '[' :: x) = .ok (arr items, s) := by
  have hfirst := hx.ne_bracket
  simp only [readValue, enter, bind, Except.bind, hx.skipBlanks_eq, hitems]
  rfl

theorem readValue_obj (hx : StartsValue x)
    (hmembers : readMembers steps depth [] x = .ok (members, s)) :
    readValue (steps + 1) (depth + 1) (.scalar '\x7b' :: x) = .ok (obj members, s) := by
  have hfirst := hx.ne_brace
  simp only [readValue, enter, bind, Except.bind, hx.skipBlanks_eq, hmembers]
  rfl

/-- What opens neither a string nor brackets is a word or a number. -/
theorem readValue_of_head {c : Char} (hc : c ∉ ['\x22', '[', '\x7b']) (x : Input) :
    readValue (steps + 1) depth (.scalar c :: x) = readScalar (.scalar c :: x) := by
  simp only [List.mem_cons, List.not_mem_nil, or_false, not_or] at hc
  simp [readValue, hc]

end

/-! ### Reading what is written -/

theorem readValue_of_readScalar {j : Json} {c : Char} {rest : Input} {steps : Nat} (depth : Nat)
    (htext : pointsOf j.render = .scalar c :: rest) (hc : c ∉ ['\x22', '[', '\x7b'])
    (hread : readScalar (pointsOf j.render ++ s) = .ok (j, s))
    (hsteps : 2 * (pointsOf j.render).length ≤ steps) :
    readValue steps depth (pointsOf j.render ++ s) = .ok (j, s) := by
  rw [htext, List.length_cons] at hsteps
  obtain ⟨steps, rfl⟩ : ∃ k, steps = k + 1 := ⟨steps - 1, by omega⟩
  rw [htext, List.cons_append] at hread ⊢
  rw [readValue_of_head hc, hread]

-- The induction is on the value. Of two steps of the reader one takes a code point, so the bound on
-- the steps is twice the length of the text, and one less inside brackets.
mutual

/-- The text of a value is read as the value. -/
theorem readValue_render : ∀ j : Json, j.IsPlain → ∀ (steps depth : Nat) (s : Input),
    2 * (pointsOf j.render).length ≤ steps → j.levels ≤ depth → IsBehindValue s →
      readValue steps depth (pointsOf j.render ++ s) = .ok (j, s)
  | null, _, _, depth, s, hsteps, _, _ =>
    readValue_of_readScalar depth rfl (by decide) (readScalar_null s) hsteps
  | bool true, _, _, depth, s, hsteps, _, _ =>
    readValue_of_readScalar depth rfl (by decide) (readScalar_bool true s) hsteps
  | bool false, _, _, depth, s, hsteps, _, _ =>
    readValue_of_readScalar depth rfl (by decide) (readScalar_bool false s) hsteps
  | int n, h, _, depth, _, hsteps, _, hs => by
    obtain ⟨c, rest, htext, hc⟩ := exists_pointsOf_int n
    have hother : c ∉ ['\x22', '[', '\x7b'] := by
      simp only [List.mem_cons, List.not_mem_nil, or_false]
      rintro (rfl | rfl | rfl) <;> exact absurd hc (by decide)
    exact readValue_of_readScalar depth htext hother (readScalar_int h hs) hsteps
  | float _, h, _, _, _, _, _, _ => absurd h id
  | str t, h, steps, depth, s, hsteps, _, _ => by
    have hread := readText_quote h s
    rw [render, pointsOf_quote, List.length_cons] at hsteps
    obtain ⟨steps, rfl⟩ : ∃ k, steps = k + 1 := ⟨steps - 1, by omega⟩
    rw [pointsOf_quote, List.cons_append] at hread
    rw [render, pointsOf_quote, List.cons_append, readValue, hread]
    rfl
  | arr [], _, steps, depth, s, hsteps, hlevels, _ => by
    rw [pointsOf_render_arr, List.length_cons] at hsteps
    rw [levels] at hlevels
    obtain ⟨steps, rfl⟩ : ∃ k, steps = k + 1 := ⟨steps - 1, by omega⟩
    obtain ⟨depth, rfl⟩ : ∃ k, depth = k + 1 := ⟨depth - 1, by omega⟩
    rw [pointsOf_render_arr]
    rfl
  | arr (j :: rest), h, steps, depth, s, hsteps, hlevels, hs => by
    rw [pointsOf_render_arr, List.length_cons] at hsteps
    rw [levels] at hlevels
    obtain ⟨steps, rfl⟩ : ∃ k, steps = k + 1 := ⟨steps - 1, by omega⟩
    obtain ⟨depth, rfl⟩ : ∃ k, depth = k + 1 := ⟨depth - 1, by omega⟩
    have hitems := readItems_itemsPoints (j :: rest) h (List.cons_ne_nil _ _) steps depth s
      (by omega) (by omega)
    rw [pointsOf_render_arr, List.cons_append]
    exact readValue_arr ((startsValue_itemsPoints h (List.cons_ne_nil _ _)).append s) hitems
  | obj [], _, steps, depth, s, hsteps, hlevels, _ => by
    rw [pointsOf_render_obj, List.length_cons] at hsteps
    rw [levels] at hlevels
    obtain ⟨steps, rfl⟩ : ∃ k, steps = k + 1 := ⟨steps - 1, by omega⟩
    obtain ⟨depth, rfl⟩ : ∃ k, depth = k + 1 := ⟨depth - 1, by omega⟩
    rw [pointsOf_render_obj]
    rfl
  | obj (m :: rest), h, steps, depth, s, hsteps, hlevels, hs => by
    rw [pointsOf_render_obj, List.length_cons] at hsteps
    rw [levels] at hlevels
    obtain ⟨steps, rfl⟩ : ∃ k, steps = k + 1 := ⟨steps - 1, by omega⟩
    obtain ⟨depth, rfl⟩ : ∃ k, depth = k + 1 := ⟨depth - 1, by omega⟩
    have hmembers := readMembers_membersPoints (m :: rest) h.2 (List.cons_ne_nil _ _) steps depth
      [] s (by omega) (by omega)
    rw [foldl_putEntry_of_nodup h.1, List.nil_append] at hmembers
    rw [pointsOf_render_obj, List.cons_append]
    exact readValue_obj ((startsValue_membersPoints (List.cons_ne_nil _ _)).append s) hmembers

theorem readItems_itemsPoints : ∀ items : List Json, ItemsPlain items → items ≠ [] →
    ∀ (steps depth : Nat) (s : Input),
      2 * (itemsPoints items).length ≤ steps + 1 → itemsLevels items ≤ depth →
        readItems steps depth (itemsPoints items ++ s) = .ok (items, s)
  | [], _, hne, _, _, _, _, _ => absurd rfl hne
  | [j], h, _, steps, depth, s, hsteps, hlevels => by
    rw [itemsPoints, List.length_append, List.length_singleton] at hsteps
    rw [itemsLevels, Nat.max_le] at hlevels
    obtain ⟨steps, rfl⟩ : ∃ k, steps = k + 1 := ⟨steps - 1, by omega⟩
    rw [itemsPoints, List.append_assoc]
    exact readItems_last
      (readValue_render j h.1 steps depth _ (by omega) hlevels.1 (.bracket s))
  | j :: k :: rest, h, _, steps, depth, s, hsteps, hlevels => by
    rw [itemsPoints, List.length_append, List.length_cons] at hsteps
    rw [itemsLevels, Nat.max_le] at hlevels
    obtain ⟨steps, rfl⟩ : ∃ k, steps = k + 1 := ⟨steps - 1, by omega⟩
    have hrest := readItems_itemsPoints (k :: rest) h.2 (List.cons_ne_nil _ _) steps depth s
      (by omega) hlevels.2
    rw [itemsPoints, List.append_assoc]
    exact readItems_next
      (readValue_render j h.1 steps depth _ (by omega) hlevels.1 (.comma _))
      ((startsValue_itemsPoints h.2 (List.cons_ne_nil _ _)).append s) hrest

theorem readMembers_membersPoints : ∀ members : List (Text × Json), MembersPlain members →
    members ≠ [] → ∀ (steps depth : Nat) (sofar : List (Text × Json)) (s : Input),
      2 * (membersPoints members).length ≤ steps + 1 → membersLevels members ≤ depth →
        readMembers steps depth sofar (membersPoints members ++ s) =
          .ok (members.foldl (fun m e => putEntry e.1 e.2 m) sofar, s)
  | [], _, hne, _, _, _, _, _, _ => absurd rfl hne
  | [(name, j)], h, _, steps, depth, sofar, s, hsteps, hlevels => by
    rw [membersPoints, List.length_append, List.length_cons, List.length_append,
      List.length_singleton] at hsteps
    rw [membersLevels, Nat.max_le] at hlevels
    obtain ⟨steps, rfl⟩ : ∃ k, steps = k + 1 := ⟨steps - 1, by omega⟩
    have hvalue := readValue_render j h.2.1 steps depth (.scalar '\x7d' :: s) (by omega) hlevels.1
      (.brace s)
    rw [membersPoints, List.append_assoc, List.cons_append, List.append_assoc]
    exact readMembers_last (readText_quote h.1 _) ((startsValue_render h.2.1).append _) hvalue
  | (name, j) :: m :: rest, h, _, steps, depth, sofar, s, hsteps, hlevels => by
    rw [membersPoints, List.length_append, List.length_cons, List.length_append,
      List.length_cons] at hsteps
    rw [membersLevels, Nat.max_le] at hlevels
    obtain ⟨steps, rfl⟩ : ∃ k, steps = k + 1 := ⟨steps - 1, by omega⟩
    have hvalue := readValue_render j h.2.1 steps depth
      (.scalar ',' :: (membersPoints (m :: rest) ++ s)) (by omega) hlevels.1
      (.comma _)
    have hrest := readMembers_membersPoints (m :: rest) h.2.2 (List.cons_ne_nil _ _) steps depth
      (putEntry name j sofar) s (by omega) hlevels.2
    rw [membersPoints, List.append_assoc, List.cons_append, List.append_assoc]
    exact readMembers_next (readText_quote h.1 _) ((startsValue_render h.2.1).append _) hvalue
      ((startsValue_membersPoints (List.cons_ne_nil _ _)).append s) hrest

end

/-- **A value is read from its text as it was written.** -/
theorem readUnicode_render {j : Json} (h : j.IsPlain) {depth : Nat} (hlevels : j.levels ≤ depth) :
    readUnicode depth j.render = .ok j := by
  have hread := readValue_render j h (2 * (pointsOf j.render).length + 2) depth [] (by omega)
    hlevels .nil
  rw [List.append_nil] at hread
  show read depth (pointsOf j.render) = _
  simp only [read, (startsValue_render h).skipBlanks_eq, hread, bind, Except.bind]
  rfl

end Json
end RareSats
