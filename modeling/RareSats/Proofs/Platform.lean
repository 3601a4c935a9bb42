/-
# What is known of a platform

Of a platform only this is taken for granted: what has one spelling is taken as it is,
and so is the decimal text of an integer; what has no surrogate and not too many levels
is sent, and what is sent of it is the value; and there is room for the levels of a
result and of a stored snapshot. The platform at hand keeps to it.

Key definition: `LawfulPlatform`.
-/
import RareSats.Proofs.IntegerText
import RareSats.Proofs.Sending
import RareSats.Wire.Request

namespace RareSats

/-- A platform that takes values for what they are, and sends them as such. -/
class LawfulPlatform [Platform] : Prop where
  integer_int : ∀ n, Platform.integer (.int n) = .ok n
  /-- The decimal text of an integer that is not too long is taken for the integer. -/
  integer_toString : ∀ n : Int, n.natAbs < 10 ^ Error.digitLimit →
    Platform.integer (.ofString (toString n)) = .ok n
  /-- A text is not taken for an integer of more digits than are ever converted. -/
  natAbs_lt_of_integer : ∀ t n, Platform.integer (.str t) = .ok n →
    n.natAbs < 10 ^ Error.digitLimit
  boolean_bool : ∀ b, Platform.boolean (.bool b) = .ok b
  requestId_null : Platform.requestId .null = .ok none
  requestId_int : ∀ n, Platform.requestId (.int n) = .ok (some (.number n))
  requestId_str : ∀ t, Platform.requestId (.str t) = .ok (some (.text t))
  /-- No other value is taken for a text. -/
  eq_str_of_requestId : ∀ j t, Platform.requestId j = .ok (some (.text t)) → j = .str t
  /-- A name without surrogates is sent as it is. -/
  sentName_ofString : ∀ s, Platform.sentName (.ofString s) = .ofString s
  /-- A value without surrogates and with not too many levels is sent. -/
  exists_sentValue : ∀ j : Json, j.Fits Platform.sendDepth → ∃ sent, Platform.sentValue j = .ok sent
  /-- Where there are integers only, a value is sent as it is. -/
  eq_of_sentValue : ∀ j sent : Json, j.isFloatFree = true → Platform.sentValue j = .ok sent →
    sent = j
  encodes_of_fits : ∀ j : Json, j.Fits Platform.sendDepth → Platform.encodes j = true
  /-- There is room for results. -/
  ten_le_sendDepth : 10 ≤ Platform.sendDepth
  /-- There is room for stored snapshots. -/
  five_le_fileDepth : 5 ≤ Platform.fileDepth

/-! ### The platform at hand -/

theorem eq_str_of_checkRequestId {j : Json} {t : Text}
    (h : checkRequestId j = .ok (some (.text t))) : j = .str t := by
  cases j with
  | str t' =>
    simp only [checkRequestId, Except.ok.injEq, Option.some.injEq, RequestId.text.injEq] at h
    rw [h]
  | null => simp [checkRequestId] at h
  | int n => simp [checkRequestId] at h
  | _ =>
    simp only [checkRequestId] at h
    split at h <;> cases h

/-- A value is sent exactly if it has not too many levels and no name in it holds a surrogate. -/
theorem Json.toSent_eq_ok_iff {j sent : Json} : j.toSent = .ok sent ↔
    (j.levels ≤ levelLimit ∧ j.namesUnicode = true) ∧ sent = j.finiteOnly := by
  rw [← fault?_eq_none_iff, toSent]
  cases j.fault? levelLimit with
  | none => simp [eq_comm]
  | some e => simp

instance LawfulPlatform.standard : @LawfulPlatform .standard where
  integer_int _ := rfl
  integer_toString _ hn := checkInteger_toString hn
  natAbs_lt_of_integer _ _ h := natAbs_lt_of_checkInteger h
  boolean_bool _ := rfl
  requestId_null := rfl
  requestId_int _ := rfl
  requestId_str _ := rfl
  eq_str_of_requestId _ _ h := eq_str_of_checkRequestId h
  sentName_ofString s := congrArg Text.ofString (Text.repaired_ofString s)
  exists_sentValue j h := ⟨j.finiteOnly, Json.toSent_eq_ok_iff.mpr
    ⟨⟨h.levels_le, Json.namesUnicode_of_isUnicode j h.isUnicode⟩, rfl⟩⟩
  eq_of_sentValue j _ hfree h := by
    rw [(Json.toSent_eq_ok_iff.mp h).2, Json.finiteOnly_of_isFloatFree j hfree]
  encodes_of_fits _ h := h.hasEncoding
  ten_le_sendDepth := by decide
  five_le_fileDepth := by decide

/-! ### Every platform -/

section

variable [Platform] [LawfulPlatform]

theorem requestId_toJson (id : Option RequestId) :
    Platform.requestId (requestIdToJson id) = .ok id := by
  rcases id with _ | ⟨n | t⟩
  · exact LawfulPlatform.requestId_null
  · exact LawfulPlatform.requestId_int n
  · exact LawfulPlatform.requestId_str t

theorem Json.Fits.sendable {j : Json} {n : Nat} (h : j.Fits n) (hn : n ≤ 10) :
    j.Fits Platform.sendDepth :=
  h.mono (Nat.le_trans hn LawfulPlatform.ten_le_sendDepth)

theorem integer_toString_of_str {t : Text} {n : Int} (h : Platform.integer (.str t) = .ok n) :
    Platform.integer (.ofString (toString n)) = .ok n :=
  LawfulPlatform.integer_toString n (LawfulPlatform.natAbs_lt_of_integer t n h)

end

end RareSats
