/-
# What is accepted as a call

A call is accepted exactly if it is an object whose members are: each of them is
checked on its own, and one that may be missing counts as its default
(`checkRequest_eq_ok_iff`). The identifier of a call so depends on nothing but its
raw identifier, which is null if there is none, and an identifier that is an integer,
a text or null is taken as it is (`id_of_rawId`).

Key definition: `rawId`.
Key theorems: `optionalField_eq_ok_iff`, `checkRequest_eq_ok_iff`, `id_of_rawId`,
`checkQueryRequest_eq_ok_iff`.
-/
import Mathlib.Data.List.Forall2
import RareSats.Proofs.Platform

namespace RareSats

variable {α β : Type} {members : List (Text × Json)} {name : String} {check : Json → Checked α}

/-! ### Checks of members -/

theorem lookup_map_ofString (members : List (String × Json)) (name : String) :
    (members.map fun m => (Text.ofString m.1, m.2)).lookup (.ofString name) =
      members.lookup name := by
  induction members with
  | nil => rfl
  | cons m rest ih =>
    have hname : (Text.ofString name == Text.ofString m.1) = (name == m.1) := by
      rw [Bool.eq_iff_iff, beq_iff_eq, beq_iff_eq]
      exact ⟨Text.ofString_injective, congrArg Text.ofString⟩
    rw [List.map_cons, List.lookup_cons, List.lookup_cons, hname, ih]

theorem Checked.under_eq_ok_iff {place : Place} {x : Checked α} {a : α} :
    x.under place = .ok a ↔ x = .ok a := by
  cases x <;> simp [under]

theorem Checked.map_eq_ok_iff {x : Checked α} {f : α → β} {b : β} :
    x.map f = .ok b ↔ ∃ a, x = .ok a ∧ f a = b := by
  cases x <;> simp [Except.map]

theorem checkObject_bind_eq_ok_iff {model : String} {f : List (Text × Json) → Checked α} {j : Json}
    {a : α} :
    (checkObject model j >>= f) = .ok a ↔ ∃ members, j = .obj members ∧ f members = .ok a := by
  cases j with
  | obj members =>
    simp only [Json.obj.injEq, exists_eq_left']
    exact Iff.rfl
  | _ => exact iff_of_false (fun h => by cases h) (fun ⟨_, h, _⟩ => by cases h)

/-- A member that may be missing is checked as its default would be. -/
theorem optionalField_eq_ok_iff {default : Json} {otherwise : α}
    (hdefault : check default = .ok otherwise) {a : α} :
    optionalField members name otherwise check = .ok a ↔
      check ((members.lookup (.ofString name)).getD default) = .ok a := by
  unfold optionalField
  cases members.lookup (.ofString name) with
  | none => rw [Option.getD_none, hdefault]
  | some j => rw [Checked.under_eq_ok_iff, Option.getD_some]

theorem optionalField_of_lookup {otherwise a : α} {j : Json}
    (hj : members.lookup (.ofString name) = some j) (h : check j = .ok a) :
    optionalField members name otherwise check = .ok a := by
  rw [optionalField, hj]
  exact Checked.under_eq_ok_iff.mpr h

theorem requiredField_eq_ok_iff {a : α} :
    requiredField members name check = .ok a ↔
      ∃ j, members.lookup (.ofString name) = some j ∧ check j = .ok a := by
  unfold requiredField
  rw [Checked.under_eq_ok_iff]
  cases members.lookup (.ofString name) <;> simp [Checked.fail]

theorem checkText_eq_ok_iff {j : Json} {t : Text} : checkText j = .ok t ↔ j = .str t := by
  cases j <;> simp [checkText, Checked.fail]

/-! ### Identifiers -/

/-- The identifier that a value brings as a call, be it accepted or not. -/
def rawId (payload : Json) : Json :=
  (payload.member? "id").getD .null

theorem finiteOnly_requestIdToJson (id : Option RequestId) :
    (requestIdToJson id).finiteOnly = requestIdToJson id := by
  rcases id with _ | ⟨n | t⟩ <;> rfl

/-! ### Calls -/

section

variable [Platform] [LawfulPlatform]

/-- **A call is accepted if each of its members is.** -/
theorem checkRequest_eq_ok_iff {payload : Json} {request : Request} :
    checkRequest payload = .ok request ↔ ∃ members, payload = .obj members ∧
      checkVersion ((members.lookup (.ofString "jsonrpc")).getD (.ofString "2.0")) = .ok () ∧
      Platform.requestId (rawId payload) = .ok request.id ∧
      members.lookup (.ofString "method") = some (.str request.method) ∧
      (members.lookup (.ofString "params")).getD .null = request.params := by
  have hversion : checkVersion (.ofString "2.0") = .ok () := by
    simp only [Json.ofString, checkVersion, Text.string?_ofString, if_true]
  have hid : Platform.requestId .null = .ok none := LawfulPlatform.requestId_null
  have hparams : (Except.ok : Json → Checked Json) .null = .ok .null := rfl
  rw [checkRequest, checkObject_bind_eq_ok_iff]
  refine exists_congr fun members => and_congr_right ?_
  rintro rfl
  simp only [Checked.map_eq_ok_iff, Prod.exists, Checked.both_ok_iff,
    optionalField_eq_ok_iff hversion, optionalField_eq_ok_iff hid, optionalField_eq_ok_iff hparams,
    requiredField_eq_ok_iff, checkText_eq_ok_iff, Except.ok.injEq, exists_eq_right]
  constructor
  · rintro ⟨_, id, method, params, h, rfl⟩
    exact h
  · intro h
    exact ⟨(), request.id, request.method, request.params, h, rfl⟩

/-- **An identifier that is an integer, a text or null is that of the call.** -/
theorem id_of_rawId {payload : Json} {request : Request} {id : Option RequestId}
    (h : checkRequest payload = .ok request) (hid : rawId payload = requestIdToJson id) :
    request.id = id := by
  obtain ⟨members, -, -, hrequest, -⟩ := checkRequest_eq_ok_iff.mp h
  rw [hid, requestId_toJson, Except.ok.injEq] at hrequest
  exact hrequest.symm

end

/-! ### Lists -/

theorem exists_of_forall₂_right {R : α → β → Prop} {xs : List α} {ys : List β}
    (h : List.Forall₂ R xs ys) {y : β} (hy : y ∈ ys) : ∃ x ∈ xs, R x y := by
  induction h with
  | nil => cases hy
  | cons hfirst _ ih =>
    rcases List.mem_cons.mp hy with rfl | hy
    · exact ⟨_, List.mem_cons_self, hfirst⟩
    · obtain ⟨x, hx, hxy⟩ := ih hy
      exact ⟨x, List.mem_cons_of_mem _ hx, hxy⟩

theorem checkItems_eq_ok_iff {i : Nat} {items : List Json} {xs : List α} :
    checkItems check i items = .ok xs ↔ List.Forall₂ (fun j x => check j = .ok x) items xs := by
  induction items generalizing i xs with
  | nil =>
    rw [checkItems, List.forall₂_nil_left_iff, Except.ok.injEq]
    exact eq_comm
  | cons j rest ih =>
    rw [checkItems, Checked.map_eq_ok_iff, List.forall₂_cons_left_iff]
    simp only [Prod.exists, Checked.both_ok_iff, Checked.under_eq_ok_iff, ih]
    refine ⟨?_, ?_⟩
    · rintro ⟨x, others, ⟨hx, hothers⟩, rfl⟩
      exact ⟨x, others, hx, hothers, rfl⟩
    · rintro ⟨x, others, hx, hothers, rfl⟩
      exact ⟨x, others, ⟨hx, hothers⟩, rfl⟩

/-! ### Queries -/

theorem checkList_text_eq_ok_iff {j : Json} {ts : List Text} :
    checkList checkText j = .ok ts ↔ j = .arr (ts.map .str) := by
  cases j with
  | arr items =>
    rw [checkList, checkItems_eq_ok_iff, Json.arr.injEq]
    simp only [checkText_eq_ok_iff]
    rw [← List.forall₂_eq_eq_eq, List.forall₂_map_right_iff]
  | _ => simp [checkList, Checked.fail]

/-- **A query is accepted if its references are a list of texts.** -/
theorem checkQueryRequest_eq_ok_iff {params : Json} {query : QueryRequest} :
    checkQueryRequest params = .ok query ↔ ∃ members, params = .obj members ∧
      members.lookup (.ofString "references") = some (.arr (query.references.map .str)) := by
  rw [checkQueryRequest, checkObject_bind_eq_ok_iff]
  refine exists_congr fun members => and_congr_right fun _ => ?_
  simp only [Checked.map_eq_ok_iff, requiredField_eq_ok_iff, checkList_text_eq_ok_iff]
  constructor
  · rintro ⟨references, ⟨j, hj, rfl⟩, rfl⟩
    exact hj
  · intro h
    exact ⟨query.references, ⟨_, h, rfl⟩, rfl⟩

end RareSats
