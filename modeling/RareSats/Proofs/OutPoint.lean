/-
# References that are not read

Reading a reference either gives an outpoint, or tells a fault of the reference, or
gives up on its index. The last happens exactly to references that are outpoints but
for the size of their index, which has more digits than are ever converted
(`OutPoint.parse_eq_tooManyDigits_iff`).

Key definition: `HasLongIndex`.
Key theorems: `splitAtColon_eq_some_iff`, `OutPoint.isTransaction_iff`,
`OutPoint.exists_parts`, `OutPoint.parse_of_parts`,
`OutPoint.parse_eq_tooManyDigits_iff`, `OutPoint.parse_error_cases`.
-/
import RareSats.OutPoint
import RareSats.Proofs.Text

namespace RareSats

/-- The parts of a text are those around a colon that has no other one before it. -/
theorem splitAtColon_eq_some_iff {s before after : List Char} :
    splitAtColon s = some (before, after) ↔ s = before ++ ':' :: after ∧ ':' ∉ before := by
  have hsplit := List.takeWhile_append_dropWhile (p := fun c => decide (c ≠ ':')) (l := s)
  unfold splitAtColon
  constructor
  · intro h
    cases hrest : s.dropWhile (fun c => decide (c ≠ ':')) with
    | nil =>
      rw [hrest] at h
      cases h
    | cons c rest =>
      rw [hrest] at h hsplit
      cases h
      have hcolon : c = ':' := by
        have hhead := List.head?_dropWhile_not (fun c => decide (c ≠ ':')) s
        rw [hrest] at hhead
        simpa using hhead
      subst hcolon
      refine ⟨hsplit.symm, fun hmem => ?_⟩
      have hbefore := List.all_eq_true.mp List.all_takeWhile _ hmem
      exact of_decide_eq_true hbefore rfl
  · rintro ⟨rfl, hnotMem⟩
    have hbefore : ∀ c ∈ before, decide (c ≠ ':') = true := fun c hc =>
      decide_eq_true fun heq => hnotMem (heq ▸ hc)
    rw [List.dropWhile_append_of_pos hbefore, List.takeWhile_append_of_pos hbefore]
    simp

namespace OutPoint

variable {reference : Text} {count : Nat}

/-- A reference with the identifier of a transaction and an index of `count` digits, which are more
than are ever converted. -/
def HasLongIndex (reference : Text) (count : Nat) : Prop :=
  ∃ txid vout : List Char, reference = .ofString (String.ofList (txid ++ ':' :: vout)) ∧
    isTransaction txid = true ∧ (∀ c ∈ vout, c.isDigit = true) ∧ vout.head? ≠ some '0' ∧
    vout.length = count ∧ Error.digitLimit < count

/-- An index is given up exactly for the number of its digits. -/
theorem parseVout_eq_inr_iff {vout : List Char} : parseVout vout = .error (.inr count) ↔
    (∀ c ∈ vout, c.isDigit = true) ∧ vout.head? ≠ some '0' ∧ vout.length = count ∧
      Error.digitLimit < count := by
  unfold parseVout
  split
  · rename_i hbad
    refine iff_of_false (fun h => by cases h) ?_
    rintro ⟨hall, -, hlength, hlimit⟩
    have hnil : vout = [] := by
      rw [List.all_eq_true.mpr hall, Bool.not_true, Bool.or_false, List.isEmpty_iff] at hbad
      exact hbad
    rw [← hlength, hnil] at hlimit
    exact Nat.not_lt_zero _ hlimit
  split
  · rename_i hbad hzero
    refine iff_of_false (fun h => by cases h) ?_
    rintro ⟨-, hhead, -⟩
    rw [Bool.and_eq_true, decide_eq_true_eq, decide_eq_true_eq] at hzero
    exact hhead hzero.2
  rename_i hbad hzero
  split
  · rename_i hlimit
    refine ⟨fun h => ?_, fun h => ?_⟩
    · cases h
      simp at hbad hzero
      refine ⟨hbad.2, hzero ?_, rfl, hlimit⟩
      exact Nat.lt_trans (by decide) hlimit
    · rw [h.2.2.1]
  · rename_i hlimit
    refine iff_of_false (fun h => ?_) ?_
    · split at h <;> cases h
    · rintro ⟨-, -, rfl, h⟩
      exact hlimit h

theorem isTransaction_iff {txid : List Char} : isTransaction txid = true ↔
    ∃ hex lineEnd, txid = hex ++ lineEnd ∧ (lineEnd = [] ∨ lineEnd = ['\n']) ∧ hex.length = 64 ∧
      ∀ c ∈ hex, isHexDigit c = true := by
  unfold isTransaction
  dsimp only
  rw [Bool.and_eq_true, decide_eq_true_eq, List.all_eq_true]
  constructor
  · intro h
    by_cases hlast : txid.getLast? = some '\n'
    · rw [if_pos hlast] at h
      obtain ⟨hex, rfl⟩ := List.getLast?_eq_some_iff.mp hlast
      rw [List.dropLast_concat] at h
      exact ⟨hex, ['\n'], rfl, Or.inr rfl, h⟩
    · rw [if_neg hlast] at h
      exact ⟨txid, [], (List.append_nil _).symm, Or.inl rfl, h⟩
  · rintro ⟨hex, lineEnd, rfl, hend, hlength, hhex⟩
    rcases hend with rfl | rfl
    · have hlast : (hex ++ []).getLast? ≠ some '\n' := by
        intro hlast
        rw [List.append_nil] at hlast
        have hdigit := hhex _ (List.mem_of_getLast? hlast)
        exact absurd hdigit (by decide)
      rw [if_neg hlast, List.append_nil]
      exact ⟨hlength, hhex⟩
    · have hlast : (hex ++ ['\n']).getLast? = some '\n' := List.getLast?_concat
      rw [if_pos hlast, List.dropLast_concat]
      exact ⟨hlength, hhex⟩

/-- The identifier of a transaction has no characters but digits and a line end. -/
theorem isHexDigit_or_of_isTransaction {txid : List Char} (h : isTransaction txid = true) {c : Char}
    (hc : c ∈ txid) : isHexDigit c = true ∨ c = '\n' := by
  obtain ⟨hex, lineEnd, rfl, hend, -, hhex⟩ := isTransaction_iff.mp h
  rcases List.mem_append.mp hc with hc | hc
  · exact Or.inl (hhex c hc)
  · rcases hend with rfl | rfl
    · cases hc
    · exact Or.inr (List.mem_singleton.mp hc)

theorem notMem_of_isTransaction {txid : List Char} (h : isTransaction txid = true) {c : Char}
    (hhex : isHexDigit c = false) (hend : c ≠ '\n') : c ∉ txid := by
  intro hc
  rcases isHexDigit_or_of_isTransaction h hc with htrue | heq
  · rw [hhex] at htrue
    cases htrue
  · exact hend heq

/-! ### The parts of a reference -/

theorem isDigit_of_parseVout {vout : List Char}
    (h : ∀ fault, parseVout vout ≠ .error (.inl fault)) : ∀ c ∈ vout, c.isDigit = true := by
  unfold parseVout at h
  split at h
  · exact absurd rfl (h _)
  · rename_i hbad
    rw [Bool.or_eq_true, not_or, Bool.not_eq_true, Bool.not_eq_true', Bool.not_eq_false] at hbad
    exact List.all_eq_true.mp hbad.2

theorem exists_parts (h : ∀ fault, parse reference ≠ .error (.malformedReference reference fault)) :
    ∃ txid vout : List Char, reference = .ofString (String.ofList (txid ++ ':' :: vout)) ∧
      isTransaction txid = true := by
  unfold parse at h
  split at h
  · exact absurd rfl (h _)
  rename_i txid vout hsplit
  split at h
  · exact absurd rfl (h _)
  rename_i htransaction
  rw [Bool.not_eq_true, Bool.not_eq_false'] at htransaction
  have hdigits : ∀ c ∈ vout, c.isDigit = true := by
    refine isDigit_of_parseVout fun fault hvout => ?_
    rw [hvout] at h
    exact absurd rfl (h _)
  obtain ⟨hparts, -⟩ := splitAtColon_eq_some_iff.mp hsplit
  refine ⟨txid, vout, Text.eq_ofString_of_repaired hparts ?_, htransaction⟩
  -- no replacement character is a part of an identifier, a colon or a digit
  rw [List.mem_append, List.mem_cons, not_or, not_or]
  refine ⟨notMem_of_isTransaction htransaction (by decide) (by decide), by decide, ?_⟩
  exact fun hmem => absurd (hdigits _ hmem) (by decide)

theorem parse_of_parts {txid vout : List Char} (h : isTransaction txid = true)
    (hreference : reference = .ofString (String.ofList (txid ++ ':' :: vout))) :
    parse reference = match parseVout vout with
      | .ok index => .ok ⟨String.ofList (txid.map Char.toLower), index⟩
      | .error (.inl fault) => .error (.malformedReference reference fault)
      | .error (.inr count) => .error (.tooManyDigits count) := by
  have hcolon : ':' ∉ txid := notMem_of_isTransaction h (by decide) (by decide)
  have hsplit : splitAtColon reference.repaired.toList = some (txid, vout) := by
    rw [hreference, Text.repaired_ofString, String.toList_ofList]
    exact splitAtColon_eq_some_iff.mpr ⟨rfl, hcolon⟩
  unfold parse
  rw [hsplit]
  dsimp only
  rw [h]
  rfl

/-- **A reference is given up exactly for the length of its index.** -/
theorem parse_eq_tooManyDigits_iff :
    parse reference = .error (.tooManyDigits count) ↔ HasLongIndex reference count := by
  constructor
  · intro h
    have hfault : ∀ fault, parse reference ≠ .error (.malformedReference reference fault) := by
      simp [h]
    obtain ⟨txid, vout, hreference, htransaction⟩ := exists_parts hfault
    rw [parse_of_parts htransaction hreference] at h
    split at h
    · cases h
    · cases h
    · rename_i hvout
      cases h
      exact ⟨txid, vout, hreference, htransaction, parseVout_eq_inr_iff.mp hvout⟩
  · rintro ⟨txid, vout, hreference, htransaction, hvout⟩
    rw [parse_of_parts htransaction hreference, parseVout_eq_inr_iff.mpr hvout]

theorem parse_error_cases {e : Error} (h : parse reference = .error e) :
    (∃ fault, e = .malformedReference reference fault) ∨
      ∃ count, e = .tooManyDigits count ∧ HasLongIndex reference count := by
  by_cases hlong : ∃ count, e = .tooManyDigits count
  · obtain ⟨count, rfl⟩ := hlong
    exact Or.inr ⟨count, rfl, parse_eq_tooManyDigits_iff.mp h⟩
  refine Or.inl ?_
  unfold parse at h
  split at h
  · cases h
    exact ⟨_, rfl⟩
  · split at h
    · cases h
      exact ⟨_, rfl⟩
    · split at h
      · cases h
      · cases h
        exact ⟨_, rfl⟩
      · cases h
        exact absurd ⟨_, rfl⟩ hlong

end OutPoint
end RareSats
