/-
# What has an encoding

A value can be sent if no text in it holds a surrogate and if it has not too many
levels. Both can be told part by part (`Json.Fits`): a value without a part has one
level, and an array or an object has one level more than the greatest number of
levels of its parts. So results fit into ten levels, whatever they are about, and the
identifier that a body brings fits as its body does. Of a value that is sent as it is, only
the names of members need an encoding (`Json.fault?_eq_none_iff`).

Key definitions: `Json.levels`, `Json.Fits`, `Json.namesUnicode`.
Key theorems: `Json.fault?_eq_none_iff`, `Json.Fits.hasEncoding`, `Json.Fits.finiteOnly`,
`Json.Fits.results`.
-/
import RareSats.Json.Sending
import RareSats.Proofs.Text
import RareSats.Wire.Result

namespace RareSats
namespace Json

mutual

/-- The number of levels of a value. A value without a part has one level. -/
def levels : Json → Nat
  | arr items => itemsLevels items + 1
  | obj members => membersLevels members + 1
  | _ => 1

/-- The greatest number of levels of some values. -/
def itemsLevels : List Json → Nat
  | [] => 0
  | j :: rest => max j.levels (itemsLevels rest)

/-- The greatest number of levels of the values of some members. -/
def membersLevels : List (Text × Json) → Nat
  | [] => 0
  | (_, j) :: rest => max j.levels (membersLevels rest)

end

/-! ### Values as wholes of their parts -/

theorem itemsLevels_le_iff {items : List Json} {n : Nat} :
    itemsLevels items ≤ n ↔ ∀ j ∈ items, j.levels ≤ n := by
  induction items with
  | nil => simp [itemsLevels]
  | cons j rest ih => rw [itemsLevels, List.forall_mem_cons, ← ih, Nat.max_le]

theorem membersLevels_le_iff {members : List (Text × Json)} {n : Nat} :
    membersLevels members ≤ n ↔ ∀ m ∈ members, m.2.levels ≤ n := by
  induction members with
  | nil => simp [membersLevels]
  | cons m rest ih => rw [membersLevels, List.forall_mem_cons, ← ih, Nat.max_le]

theorem itemsUnicode_iff {items : List Json} :
    itemsUnicode items = true ↔ ∀ j ∈ items, j.isUnicode = true := by
  induction items with
  | nil => simp [itemsUnicode]
  | cons j rest ih => rw [itemsUnicode, List.forall_mem_cons, ← ih, Bool.and_eq_true]

theorem membersUnicode_iff {members : List (Text × Json)} :
    membersUnicode members = true ↔ ∀ m ∈ members, m.1.IsUnicode ∧ m.2.isUnicode = true := by
  induction members with
  | nil => simp [membersUnicode]
  | cons m rest ih =>
    rw [membersUnicode, List.forall_mem_cons, ← ih, Bool.and_eq_true, Bool.and_eq_true,
      Text.string?_isSome_iff]

/-- A value of at most `n` levels, in which no text holds a surrogate. -/
structure Fits (j : Json) (n : Nat) : Prop where
  isUnicode : j.isUnicode = true
  levels_le : j.levels ≤ n

variable {j : Json} {n : Nat}

theorem Fits.mono (h : j.Fits n) {m : Nat} (hm : n ≤ m) : j.Fits m :=
  ⟨h.isUnicode, Nat.le_trans h.levels_le hm⟩

theorem Fits.null : null.Fits 1 := ⟨rfl, Nat.le_refl _⟩

theorem Fits.int (i : Int) : (int i).Fits 1 := ⟨rfl, Nat.le_refl _⟩

theorem Fits.str {t : Text} (h : t.IsUnicode) : (str t).Fits 1 :=
  ⟨Text.string?_isSome_iff.mpr h, Nat.le_refl _⟩

theorem Fits.ofString (s : String) : (ofString s).Fits 1 :=
  .str (Text.isUnicode_ofString s)

theorem Fits.arr {items : List Json} (h : ∀ j ∈ items, j.Fits n) : (arr items).Fits (n + 1) where
  isUnicode := itemsUnicode_iff.mpr fun j hj => (h j hj).isUnicode
  levels_le := Nat.succ_le_succ (itemsLevels_le_iff.mpr fun j hj => (h j hj).levels_le)

theorem Fits.ofMembers {members : List (String × Json)} (h : ∀ m ∈ members, m.2.Fits n) :
    (ofMembers members).Fits (n + 1) where
  isUnicode := by
    refine membersUnicode_iff.mpr fun m hm => ?_
    obtain ⟨m', hm', rfl⟩ := List.mem_map.mp hm
    exact ⟨Text.isUnicode_ofString _, (h m' hm').isUnicode⟩
  levels_le := by
    refine Nat.succ_le_succ (membersLevels_le_iff.mpr fun m hm => ?_)
    obtain ⟨m', hm', rfl⟩ := List.mem_map.mp hm
    exact (h m' hm').levels_le

/-! ### Sending -/

theorem levels_pos (j : Json) : 0 < j.levels := by
  cases j <;> simp [levels]

mutual

/-- No name of a member in the value holds a surrogate. -/
def namesUnicode : Json → Bool
  | arr items => itemsNamesUnicode items
  | obj members => membersNamesUnicode members
  | _ => true

/-- No name of a member in the values holds a surrogate. -/
def itemsNamesUnicode : List Json → Bool
  | [] => true
  | j :: rest => j.namesUnicode && itemsNamesUnicode rest

/-- No name among the members or in their values holds a surrogate. -/
def membersNamesUnicode : List (Text × Json) → Bool
  | [] => true
  | (name, j) :: rest => name.string?.isSome && j.namesUnicode && membersNamesUnicode rest

end

mutual

theorem namesUnicode_of_isUnicode : ∀ j : Json, j.isUnicode = true → j.namesUnicode = true
  | null, _ | bool _, _ | int _, _ | float _, _ | str _, _ => rfl
  | arr items, h => itemsNamesUnicode_of_itemsUnicode items h
  | obj members, h => membersNamesUnicode_of_membersUnicode members h

theorem itemsNamesUnicode_of_itemsUnicode : ∀ items : List Json,
    itemsUnicode items = true → itemsNamesUnicode items = true
  | [], _ => rfl
  | j :: rest, h => by
    rw [itemsUnicode, Bool.and_eq_true] at h
    rw [itemsNamesUnicode, namesUnicode_of_isUnicode j h.1,
      itemsNamesUnicode_of_itemsUnicode rest h.2]
    rfl

theorem membersNamesUnicode_of_membersUnicode : ∀ members : List (Text × Json),
    membersUnicode members = true → membersNamesUnicode members = true
  | [], _ => rfl
  | (name, j) :: rest, h => by
    rw [membersUnicode, Bool.and_eq_true, Bool.and_eq_true] at h
    rw [membersNamesUnicode, h.1.1, namesUnicode_of_isUnicode j h.1.2,
      membersNamesUnicode_of_membersUnicode rest h.2]
    rfl

end

mutual

/-- There is nothing wrong with a value exactly if it fits into its room and no name in it holds a
surrogate. -/
theorem fault?_eq_none_iff : ∀ (room : Nat) (j : Json),
    j.fault? room = none ↔ j.levels ≤ room ∧ j.namesUnicode = true
  | 0, j => by
    have hpos := levels_pos j
    exact iff_of_false (fun h => by cases j <;> cases h) (fun h => by omega)
  | room + 1, arr items => by
    rw [fault?, itemsFault?_eq_none_iff room items, levels, Nat.succ_le_succ_iff]
    rfl
  | room + 1, obj members => by
    rw [fault?, membersFault?_eq_none_iff room members, levels, Nat.succ_le_succ_iff]
    rfl
  | room + 1, null | room + 1, bool _ | room + 1, int _ | room + 1, float _ | room + 1, str _ =>
    iff_of_true rfl ⟨Nat.succ_le_succ (Nat.zero_le _), rfl⟩

theorem itemsFault?_eq_none_iff : ∀ (room : Nat) (items : List Json),
    itemsFault? room items = none ↔ itemsLevels items ≤ room ∧ itemsNamesUnicode items = true
  | room, [] => iff_of_true rfl ⟨Nat.zero_le _, rfl⟩
  | room, j :: rest => by
    rw [itemsFault?, Option.or_eq_none_iff, fault?_eq_none_iff room j,
      itemsFault?_eq_none_iff room rest, itemsLevels, Nat.max_le, itemsNamesUnicode,
      Bool.and_eq_true]
    exact and_and_and_comm

theorem membersFault?_eq_none_iff : ∀ (room : Nat) (members : List (Text × Json)),
    membersFault? room members = none ↔
      membersLevels members ≤ room ∧ membersNamesUnicode members = true
  | room, [] => iff_of_true rfl ⟨Nat.zero_le _, rfl⟩
  | room, (name, j) :: rest => by
    rw [membersFault?, Option.or_eq_none_iff, Option.or_eq_none_iff,
      Text.encodingFault?_eq_none_iff, fault?_eq_none_iff room j,
      membersFault?_eq_none_iff room rest, membersLevels, Nat.max_le, membersNamesUnicode,
      Bool.and_eq_true, Bool.and_eq_true, Text.string?_isSome_iff]
    constructor
    · rintro ⟨hname, ⟨hlevels, hnames⟩, hlevels', hnames'⟩
      exact ⟨⟨hlevels, hlevels'⟩, ⟨hname, hnames⟩, hnames'⟩
    · rintro ⟨⟨hlevels, hlevels'⟩, ⟨hname, hnames⟩, hnames'⟩
      exact ⟨hname, ⟨hlevels, hnames⟩, hlevels', hnames'⟩

end

/-- **A value that fits has an encoding.** -/
theorem Fits.hasEncoding (h : j.Fits levelLimit) : j.hasEncoding = true := by
  have hfault := (fault?_eq_none_iff _ j).mpr
    ⟨h.levels_le, namesUnicode_of_isUnicode j h.isUnicode⟩
  rw [Json.hasEncoding, h.isUnicode, hfault]
  rfl

mutual

theorem isUnicode_finiteOnly : ∀ j : Json, j.finiteOnly.isUnicode = j.isUnicode
  | null | bool _ | int _ | str _ => rfl
  | float x => by
    unfold finiteOnly
    split <;> rfl
  | arr items => itemsUnicode_itemsFinite items
  | obj members => membersUnicode_membersFinite members

theorem itemsUnicode_itemsFinite : ∀ items : List Json,
    itemsUnicode (itemsFinite items) = itemsUnicode items
  | [] => rfl
  | j :: rest => by
    rw [itemsFinite, itemsUnicode, itemsUnicode, isUnicode_finiteOnly j,
      itemsUnicode_itemsFinite rest]

theorem membersUnicode_membersFinite : ∀ members : List (Text × Json),
    membersUnicode (membersFinite members) = membersUnicode members
  | [] => rfl
  | (name, j) :: rest => by
    rw [membersFinite, membersUnicode, membersUnicode, isUnicode_finiteOnly j,
      membersUnicode_membersFinite rest]

end

mutual

theorem levels_finiteOnly : ∀ j : Json, j.finiteOnly.levels = j.levels
  | null | bool _ | int _ | str _ => rfl
  | float x => by
    unfold finiteOnly
    split <;> rfl
  | arr items => congrArg Nat.succ (itemsLevels_itemsFinite items)
  | obj members => congrArg Nat.succ (membersLevels_membersFinite members)

theorem itemsLevels_itemsFinite : ∀ items : List Json,
    itemsLevels (itemsFinite items) = itemsLevels items
  | [] => rfl
  | j :: rest => by
    rw [itemsFinite, itemsLevels, itemsLevels, levels_finiteOnly j, itemsLevels_itemsFinite rest]

theorem membersLevels_membersFinite : ∀ members : List (Text × Json),
    membersLevels (membersFinite members) = membersLevels members
  | [] => rfl
  | (name, j) :: rest => by
    rw [membersFinite, membersLevels, membersLevels, levels_finiteOnly j,
      membersLevels_membersFinite rest]

end

theorem Fits.finiteOnly (h : j.Fits n) : j.finiteOnly.Fits n :=
  ⟨(isUnicode_finiteOnly j).trans h.isUnicode, by rw [levels_finiteOnly]; exact h.levels_le⟩

mutual

/-- There is no number with a point or an exponent in the value. -/
def isFloatFree : Json → Bool
  | float _ => false
  | arr items => itemsFloatFree items
  | obj members => membersFloatFree members
  | _ => true

/-- There is no number with a point or an exponent in the values. -/
def itemsFloatFree : List Json → Bool
  | [] => true
  | j :: rest => j.isFloatFree && itemsFloatFree rest

/-- There is no number with a point or an exponent in the values of the members. -/
def membersFloatFree : List (Text × Json) → Bool
  | [] => true
  | (_, j) :: rest => j.isFloatFree && membersFloatFree rest

end

mutual

theorem finiteOnly_of_isFloatFree : ∀ j : Json, j.isFloatFree = true → j.finiteOnly = j
  | null, _ | bool _, _ | int _, _ | str _, _ => rfl
  | float _, h => by cases h
  | arr items, h => congrArg arr (itemsFinite_of_itemsFloatFree items h)
  | obj members, h => congrArg obj (membersFinite_of_membersFloatFree members h)

theorem itemsFinite_of_itemsFloatFree : ∀ items : List Json,
    itemsFloatFree items = true → itemsFinite items = items
  | [], _ => rfl
  | j :: rest, h => by
    rw [itemsFloatFree, Bool.and_eq_true] at h
    rw [itemsFinite, finiteOnly_of_isFloatFree j h.1, itemsFinite_of_itemsFloatFree rest h.2]

theorem membersFinite_of_membersFloatFree : ∀ members : List (Text × Json),
    membersFloatFree members = true → membersFinite members = members
  | [], _ => rfl
  | (name, j) :: rest, h => by
    rw [membersFloatFree, Bool.and_eq_true] at h
    rw [membersFinite, finiteOnly_of_isFloatFree j h.1, membersFinite_of_membersFloatFree rest h.2]

end

theorem isUnicode_of_lookup {members : List (Text × Json)} (h : (obj members).isUnicode = true)
    {name : Text} (hj : members.lookup name = some j) : j.isUnicode = true := by
  obtain ⟨before, after, rfl, -⟩ := List.lookup_eq_some_iff.mp hj
  exact (membersUnicode_iff.mp h (name, j) (by simp)).2

theorem isUnicode_getD_lookup {members : List (Text × Json)}
    (h : (obj members).isUnicode = true) (name : Text) :
    ((members.lookup name).getD null).isUnicode = true := by
  cases hlookup : members.lookup name with
  | none => rfl
  | some j => exact isUnicode_of_lookup h hlookup

end Json

/-! ### Results -/

open Json

theorem Chunk.fits_toJson (c : Chunk) : c.toJson.Fits 2 := by
  refine .arr ?_
  simp only [List.forall_mem_cons]
  exact ⟨.int _, .int _, List.forall_mem_nil _⟩

theorem fits_arr_map {α : Type} {f : α → Json} {n : Nat} {xs : List α}
    (h : ∀ x ∈ xs, (f x).Fits n) : (Json.arr (xs.map f)).Fits (n + 1) := by
  refine .arr fun j hj => ?_
  obtain ⟨x, hx, rfl⟩ := List.mem_map.mp hj
  exact h x hx

theorem Entry.fits_toJson (e : Entry) : e.toJson.Fits 4 := by
  refine .ofMembers ?_
  simp only [List.forall_mem_cons]
  exact ⟨(Fits.ofString _).mono (by decide), fits_arr_map fun c _ => c.fits_toJson,
    List.forall_mem_nil _⟩

theorem RangeReport.fits_toJson {r : RangeReport} (h : ∀ t, r.blockHash = some t → t.IsUnicode) :
    r.toJson.Fits 6 := by
  have hhash : (optionalTextToJson r.blockHash).Fits 1 := by
    cases hash : r.blockHash with
    | none => exact .null
    | some t => exact .str (h t hash)
  refine .ofMembers ?_
  simp only [List.forall_mem_cons]
  exact ⟨(Fits.int _).mono (by decide), (Fits.int _).mono (by decide),
    fits_arr_map fun e _ => e.fits_toJson, (Fits.int _).mono (by decide), hhash.mono (by decide),
    List.forall_mem_nil _⟩

theorem Metadata.fits_toJson (m : Metadata) : m.toJson.Fits 2 := by
  refine .ofMembers ?_
  simp only [List.forall_mem_cons]
  exact ⟨.ofString _, .ofString _, .ofString _, .int _, .int _, .int _, .int _, .int _, .ofString _,
    List.forall_mem_nil _⟩

theorem DescribedSat.fits_toJson (d : DescribedSat) : d.toJson.Fits 3 := by
  refine .ofMembers ?_
  simp only [List.forall_mem_cons]
  exact ⟨(Fits.int _).mono (by decide), (Fits.ofString _).mono (by decide),
    (Fits.int _).mono (by decide), d.metadata.fits_toJson, List.forall_mem_nil _⟩

/-- No text in a result holds a surrogate. -/
structure ReferenceResult.IsUnicode (r : ReferenceResult) : Prop where
  reference : r.reference.IsUnicode
  blockHash : ∀ report ∈ r.ranges, ∀ t, report.blockHash = some t → t.IsUnicode

theorem ReferenceResult.IsUnicode.fits_toJson {r : ReferenceResult} (h : r.IsUnicode) :
    r.toJson.Fits 8 := by
  refine .ofMembers ?_
  simp only [List.forall_mem_cons]
  exact ⟨(Fits.str h.reference).mono (by decide),
    fits_arr_map fun report hreport => RangeReport.fits_toJson (h.blockHash report hreport),
    (fits_arr_map fun d _ => d.fits_toJson).mono (by decide),
    List.forall_mem_nil _⟩

/-- **Results fit into ten levels.** -/
theorem Json.Fits.results {results : List ReferenceResult} (h : ∀ r ∈ results, r.IsUnicode) :
    (resultsToJson results).Fits 10 := by
  refine .ofMembers ?_
  simp only [List.forall_mem_cons]
  exact ⟨fits_arr_map fun r hr => (h r hr).fits_toJson, List.forall_mem_nil _⟩

end RareSats
