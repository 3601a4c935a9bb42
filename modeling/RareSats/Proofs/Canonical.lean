/-
# One reference for each output

A reference that is read is written again with the letters of its identifier in lower
case, and with the same digits for its index: a canonical decimal is the digits of its
value, so no digit is lost or put in. What is written again is read as the same
output (`OutPoint.parse_text`). So references are to one output exactly if they agree up
to the case of letters (`OutPoint.eq_iff_lower_eq`), and an index that keeps its outputs
by their outpoints neither merges two outputs nor splits one.

Key definitions: `CodePoint.lower`, `Text.lower`.
Key theorems: `OutPoint.ofString_text`, `OutPoint.parse_text`,
`OutPoint.eq_iff_lower_eq`, `OutPoint.parse_canonical`.
-/
import RareSats.OrderedMap
import RareSats.Chunk
import RareSats.Proofs.Reference

namespace RareSats

/-! ### Lower case -/

/-- The code point in lower case, if it is one of the letters from A to Z. -/
def CodePoint.lower : CodePoint → CodePoint
  | .scalar c => .scalar c.toLower
  | .surrogate offset => .surrogate offset

/-- The text with its letters from A to Z in lower case. -/
def Text.lower (t : Text) : Text :=
  ⟨t.points.map CodePoint.lower⟩

theorem Text.lower_ofString (s : List Char) :
    (ofString (String.ofList s)).lower = ofString (String.ofList (s.map Char.toLower)) := by
  simp only [ofString, lower, String.toList_ofList, List.map_map]
  rfl

theorem toLower_of_isDigit {c : Char} (h : c.isDigit = true) : c.toLower = c := by
  obtain ⟨d, hd, rfl⟩ := exists_digitChar_eq h
  have hall : ∀ k < 10, (Nat.digitChar k).toLower = Nat.digitChar k := by decide
  exact hall d hd

theorem toNat_lt_of_isHexDigit {c : Char} (h : isHexDigit c = true) : c.toNat < 103 := by
  simp only [isHexDigit, Bool.or_eq_true, Bool.and_eq_true, decide_eq_true_eq,
    Char.isDigit_iff_toNat, Char.le_def, UInt32.le_iff_toNat_le] at h
  simp at h
  omega

theorem isHexDigit_toLower {c : Char} (h : isHexDigit c = true) :
    isHexDigit c.toLower = true ∧ c.toLower.toLower = c.toLower := by
  have hall : ∀ n < 103, isHexDigit (Char.ofNat n) = true →
      isHexDigit (Char.ofNat n).toLower = true ∧
        (Char.ofNat n).toLower.toLower = (Char.ofNat n).toLower := by decide
  have hc := hall c.toNat (toNat_lt_of_isHexDigit h)
  rw [Char.ofNat_toNat] at hc
  exact hc h

namespace OutPoint

variable {lineEnd : List Char} {reference reference' : Text} {o o' : OutPoint}

/-! ### Written references -/

theorem map_toLower_reference {hex vout : List Char} (hend : lineEnd = [] ∨ lineEnd = ['\n'])
    (hvout : IsCanonicalDecimal vout) :
    (hex ++ lineEnd ++ ':' :: vout).map Char.toLower =
      hex.map Char.toLower ++ lineEnd ++ ':' :: vout := by
  have hdigits : vout.map Char.toLower = vout := by
    rw [List.map_congr_left fun c hc => toLower_of_isDigit (hvout.isDigit c hc), List.map_id']
  rw [List.map_append, map_toLower_append hend, List.map_cons, hdigits]
  rfl

/-- The reference to an outpoint is one that it was read from, in lower case. -/
theorem Written.ofString_text (hend : lineEnd = [] ∨ lineEnd = ['\n'])
    (h : Written lineEnd reference o) : Text.ofString o.text = reference.lower := by
  obtain ⟨hex, vout, rfl, -, -, hvout, -, rfl⟩ := h
  rw [Text.lower_ofString, map_toLower_reference hend hvout, text, hvout.digits_ofDigits]
  simp [String.ofList_append, String.append_assoc]

theorem Written.text (hend : lineEnd = [] ∨ lineEnd = ['\n']) (h : Written lineEnd reference o) :
    Written lineEnd (.ofString o.text) o := by
  have htext := h.ofString_text hend
  obtain ⟨hex, vout, rfl, hlength, hhex, hvout, hrange, rfl⟩ := h
  have htwice : (hex.map Char.toLower).map Char.toLower = hex.map Char.toLower := by
    rw [List.map_map]
    exact List.map_congr_left fun c hc => (isHexDigit_toLower (hhex c hc)).2
  refine ⟨hex.map Char.toLower, vout, ?_, by rwa [List.length_map], fun c hc => ?_, hvout, hrange,
    by rw [htwice]⟩
  · rw [htext, Text.lower_ofString, map_toLower_reference hend hvout]
  · obtain ⟨d, hd, rfl⟩ := List.mem_map.mp hc
    exact (isHexDigit_toLower (hhex d hd)).1

/-! ### References that are read -/

theorem ofString_text (h : parse reference = .ok o) : Text.ofString o.text = reference.lower := by
  rcases parse_eq_ok_iff.mp h with hwritten | hwritten
  · exact hwritten.ofString_text (Or.inl rfl)
  · exact hwritten.ofString_text (Or.inr rfl)

theorem parse_text (h : parse reference = .ok o) : parse (.ofString o.text) = .ok o := by
  rcases parse_eq_ok_iff.mp h with hwritten | hwritten
  · exact parse_eq_ok_iff.mpr (Or.inl (hwritten.text (Or.inl rfl)))
  · exact parse_eq_ok_iff.mpr (Or.inr (hwritten.text (Or.inr rfl)))

/-- **References are to one output exactly if they agree up to the case of letters.** -/
theorem eq_iff_lower_eq (h : parse reference = .ok o) (h' : parse reference' = .ok o') :
    o = o' ↔ reference.lower = reference'.lower := by
  rw [← ofString_text h, ← ofString_text h']
  constructor
  · rintro rfl
    rfl
  · intro htext
    have hparse := parse_text h
    rw [htext, parse_text h'] at hparse
    exact (Except.ok.inj hparse).symm

/-- **References have a canonical form.** The reference to an outpoint that was read is what it was
read from with its letters in lower case, and is read as the same outpoint. Of two references that
are read, the outpoints are the same exactly if the references agree in lower case, and exactly then
they are one key of a map, in which the later entry takes the place of the earlier one. -/
theorem parse_canonical (h : parse reference = .ok o) :
    Text.ofString o.text = reference.lower ∧ parse (.ofString o.text) = .ok o ∧
    ∀ reference' o', parse reference' = .ok o' →
      (o = o' ↔ reference.lower = reference'.lower) ∧
      ∀ chunks chunks' : List Chunk, mapOfEntries [(o, chunks), (o', chunks')] = [(o', chunks')] ↔
        reference.lower = reference'.lower := by
  refine ⟨ofString_text h, parse_text h, fun reference' o' h' => ⟨eq_iff_lower_eq h h',
    fun chunks chunks' => ?_⟩⟩
  rw [← eq_iff_lower_eq h h']
  by_cases hsame : o = o'
  · simp [mapOfEntries, putEntry, hsame]
  · simp [mapOfEntries, putEntry, hsame]

/-- A reference to the output 7 of the transaction with the identifier of one digit alone. -/
def repeatedReference (c : Char) : Text :=
  .ofString (String.ofList (List.replicate 64 c ++ [':', '7']))

theorem parse_repeatedReference {c : Char} (hc : isHexDigit c = true) :
    parse (repeatedReference c) = .ok ⟨String.ofList (List.replicate 64 c.toLower), 7⟩ := by
  have hhex : ∀ d ∈ List.replicate 64 c, isHexDigit d = true := by
    intro d hd
    rwa [List.eq_of_mem_replicate hd]
  have hseven : IsCanonicalDecimal ['7'] := by
    refine ⟨List.cons_ne_nil _ _, List.forall_mem_singleton.mpr rfl, fun hzero => ?_⟩
    exact absurd hzero (by decide)
  have hlower : (List.replicate 64 c).map Char.toLower = List.replicate 64 c.toLower :=
    List.map_replicate
  refine parse_eq_ok_iff.mpr (Or.inl ⟨List.replicate 64 c, ['7'], rfl, List.length_replicate, hhex,
    hseven, by decide, ?_⟩)
  rw [hlower, List.append_nil]
  rfl

/-- A reference in capitals is kept in lower case, as one in lower case is, and is one key with it. -/
theorem parse_canonical_capitals :
    parse (repeatedReference 'A') = .ok ⟨String.ofList (List.replicate 64 'a'), 7⟩ ∧
    Text.ofString (text ⟨String.ofList (List.replicate 64 'a'), 7⟩) =
      (repeatedReference 'A').lower ∧
    (repeatedReference 'A').lower = (repeatedReference 'a').lower := by
  have hcapital := parse_repeatedReference (c := 'A') rfl
  have hsmall := parse_repeatedReference (c := 'a') rfl
  obtain ⟨htext, -, hsame⟩ := parse_canonical hcapital
  exact ⟨hcapital, htext, (hsame _ _ hsmall).1.mp rfl⟩

end OutPoint

end RareSats
