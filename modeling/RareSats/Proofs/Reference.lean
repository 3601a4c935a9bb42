/-
# Written references

A reference to an output is written as 64 hexadecimal digits, a colon and a canonical
decimal of at most 32 bits. Such a reference is read as what is written. There are two
deviations: a line end behind the hexadecimal digits is read along with them, and a
decimal of more digits than are ever converted is given up and not told to be out of
range. Any other text is a malformed reference (`OutPoint.parse_written`).

A canonical decimal is the digits of its value (`IsCanonicalDecimal.digits_ofDigits`), so
one of at most 32 bits is short and is never given up.

Key definitions: `IsCanonicalDecimal`, `OutPoint.Written`.
Key theorems: `IsCanonicalDecimal.digits_ofDigits`, `OutPoint.parseVout_eq_ok_iff`,
`OutPoint.parse_eq_ok_iff`, `OutPoint.parse_written`.
-/
import RareSats.Proofs.Decimal
import RareSats.Proofs.OutPoint

namespace RareSats

/-- A decimal of digits alone, without a zero before other digits. -/
structure IsCanonicalDecimal (ds : List Char) : Prop where
  ne_nil : ds ≠ []
  isDigit : ∀ c ∈ ds, c.isDigit = true
  eq_zero : ds.head? = some '0' → ds = ['0']

namespace IsCanonicalDecimal

variable {ds : List Char}

theorem digits_ofDigits (h : IsCanonicalDecimal ds) : digits (ofDigits ds) = ds := by
  obtain ⟨c, cs, rfl⟩ := List.exists_cons_of_ne_nil h.ne_nil
  obtain ⟨d, hd, rfl⟩ := exists_digitChar_eq (h.isDigit c List.mem_cons_self)
  by_cases hzero : d = 0
  · subst hzero
    rw [h.eq_zero rfl]
    rfl
  · have hcs : ∀ c ∈ cs, c.isDigit = true := fun c hc =>
      h.isDigit c (List.mem_cons_of_mem _ hc)
    have hpos : 0 < 10 * 0 + d := by omega
    have hhead : digits (10 * 0 + d) = [Nat.digitChar d] := by
      rw [Nat.mul_zero, Nat.zero_add]
      exact Nat.toDigits_of_lt_base hd
    unfold ofDigits
    rw [Nat.ofDigitChars_cons_digitChar_of_lt_ten hd, digits_ofDigitChars hcs hpos, hhead,
      List.singleton_append]

theorem length_le {k : Nat} (h : IsCanonicalDecimal ds) (hk : 0 < k) (hvalue : ofDigits ds < 10 ^ k) :
    ds.length ≤ k := by
  rw [← h.digits_ofDigits]
  exact (length_digits_le_iff hk).mpr hvalue

end IsCanonicalDecimal

namespace OutPoint

/-- An index is read exactly if it is a canonical decimal of at most 32 bits. -/
theorem parseVout_eq_ok_iff {vout : List Char} {index : Nat} :
    parseVout vout = .ok index ↔
      IsCanonicalDecimal vout ∧ ofDigits vout ≤ maxVout ∧ ofDigits vout = index := by
  constructor
  · intro h
    have hdigits : ∀ c ∈ vout, c.isDigit = true := isDigit_of_parseVout (by simp [h])
    unfold parseVout at h
    split at h
    · cases h
    rename_i hbad
    split at h
    · cases h
    rename_i hzero
    split at h
    · cases h
    split at h
    · cases h
    rename_i hrange
    refine ⟨⟨?_, hdigits, ?_⟩, Nat.not_lt.mp hrange, Except.ok.inj h⟩
    · rintro rfl
      exact hbad rfl
    · intro hhead
      have hlength : ¬ 1 < vout.length := fun hlong => hzero (by simp [hlong, hhead])
      match vout, hhead, hlength with
      | [c], hhead, _ => rw [Option.some.inj hhead]
      | _ :: _ :: _, _, hlength => simp at hlength
  · rintro ⟨hcanonical, hrange, rfl⟩
    have hbad : (vout.isEmpty || !vout.all Char.isDigit) = false := by
      rw [List.all_eq_true.mpr hcanonical.isDigit, List.isEmpty_eq_false_iff.mpr hcanonical.ne_nil]
      rfl
    have hzero : ¬ (1 < vout.length ∧ vout.head? = some '0') := by
      rintro ⟨hlength, hhead⟩
      rw [hcanonical.eq_zero hhead] at hlength
      exact absurd hlength (by decide)
    have hlimit : ¬ Error.digitLimit < vout.length := by
      have hlength : vout.length ≤ 10 :=
        hcanonical.length_le (by decide) (Nat.lt_of_le_of_lt hrange (by decide))
      unfold Error.digitLimit
      omega
    unfold parseVout
    rw [hbad, if_neg Bool.false_ne_true, if_neg (by simpa using hzero), if_neg hlimit,
      if_neg (Nat.not_lt.mpr hrange)]

/-- The outpoint that a reference of 64 hexadecimal digits, `lineEnd`, a colon and a canonical
decimal of at most 32 bits stands for. -/
def Written (lineEnd : List Char) (reference : Text) (o : OutPoint) : Prop :=
  ∃ hex vout : List Char,
    reference = .ofString (String.ofList (hex ++ lineEnd ++ ':' :: vout)) ∧
    hex.length = 64 ∧ (∀ c ∈ hex, isHexDigit c = true) ∧
    IsCanonicalDecimal vout ∧ ofDigits vout ≤ maxVout ∧
    o = ⟨String.ofList (hex.map Char.toLower ++ lineEnd), ofDigits vout⟩

variable {reference : Text} {o : OutPoint}

theorem map_toLower_append {hex lineEnd : List Char} (h : lineEnd = [] ∨ lineEnd = ['\n']) :
    (hex ++ lineEnd).map Char.toLower = hex.map Char.toLower ++ lineEnd := by
  rcases h with rfl | rfl
  · simp
  · simp

/-- A reference is read exactly if it is written, with a line end behind its digits or none. -/
theorem parse_eq_ok_iff :
    parse reference = .ok o ↔ Written [] reference o ∨ Written ['\n'] reference o := by
  have hiff : parse reference = .ok o ↔
      ∃ lineEnd, (lineEnd = [] ∨ lineEnd = ['\n']) ∧ Written lineEnd reference o := by
    constructor
    · intro h
      have hfault : ∀ fault, parse reference ≠ .error (.malformedReference reference fault) := by
        simp [h]
      obtain ⟨txid, vout, hreference, htransaction⟩ := exists_parts hfault
      rw [parse_of_parts htransaction hreference] at h
      split at h
      · rename_i index hvout
        obtain ⟨hcanonical, hrange, rfl⟩ := parseVout_eq_ok_iff.mp hvout
        obtain ⟨hex, lineEnd, rfl, hend, hlength, hhex⟩ := isTransaction_iff.mp htransaction
        refine ⟨lineEnd, hend, hex, vout, hreference, hlength, hhex, hcanonical, hrange, ?_⟩
        rw [← Except.ok.inj h, map_toLower_append hend]
      · cases h
      · cases h
    · rintro ⟨lineEnd, hend, hex, vout, hreference, hlength, hhex, hcanonical, hrange, rfl⟩
      have htransaction := isTransaction_iff.mpr ⟨hex, lineEnd, rfl, hend, hlength, hhex⟩
      rw [parse_of_parts htransaction hreference,
        parseVout_eq_ok_iff.mpr ⟨hcanonical, hrange, rfl⟩, map_toLower_append hend]
  rw [hiff]
  simp

/-- **A reference is read as it is written.** Besides what is written without a line end, a reference
with a line end behind its 64 digits is read, and keeps it. The reference is given up exactly for the
length of its index, and any other one is malformed. -/
theorem parse_written (reference : Text) :
    (∀ o, parse reference = .ok o ↔ Written [] reference o ∨ Written ['\n'] reference o) ∧
    (∀ count, parse reference = .error (.tooManyDigits count) ↔ HasLongIndex reference count) ∧
    ((∃ fault, parse reference = .error (.malformedReference reference fault)) ↔
      (∀ o, ¬ Written [] reference o ∧ ¬ Written ['\n'] reference o) ∧
        ∀ count, ¬ HasLongIndex reference count) := by
  refine ⟨fun o => parse_eq_ok_iff, fun count => parse_eq_tooManyDigits_iff, ?_, ?_⟩
  · rintro ⟨fault, hfault⟩
    refine ⟨fun o => not_or.mp fun hwritten => ?_, fun count hlong => ?_⟩
    · rw [parse_eq_ok_iff.mpr hwritten] at hfault
      cases hfault
    · rw [parse_eq_tooManyDigits_iff.mpr hlong] at hfault
      cases hfault
  · rintro ⟨hwritten, hlong⟩
    cases hparse : parse reference with
    | ok o => exact absurd (parse_eq_ok_iff.mp hparse) (not_or.mpr (hwritten o))
    | error e =>
      rcases parse_error_cases hparse with ⟨fault, rfl⟩ | ⟨count, -, hcount⟩
      · exact ⟨fault, rfl⟩
      · exact absurd hcount (hlong count)

/-- A reference with a line end behind its 64 digits. -/
def lineEndReference : Text :=
  .ofString (String.ofList (List.replicate 64 'a' ++ ['\n'] ++ [':', '0']))

/-- Not every reference that is read is written without a line end. -/
theorem line_end_read :
    ¬ ∀ reference : Text,
      (∀ o, parse reference = .ok o ↔ Written [] reference o) ∧
      ((∀ o, ¬ Written [] reference o) →
        ∃ fault, parse reference = .error (.malformedReference reference fault)) := by
  intro h
  have hhex : ∀ c ∈ List.replicate 64 'a', isHexDigit c = true := by
    intro c hc
    rw [List.eq_of_mem_replicate hc]
    rfl
  have hzero : IsCanonicalDecimal ['0'] := by
    refine ⟨List.cons_ne_nil _ _, fun c hc => ?_, fun _ => rfl⟩
    rw [List.mem_singleton.mp hc]
    rfl
  have hwritten : Written ['\n'] lineEndReference _ :=
    ⟨List.replicate 64 'a', ['0'], rfl, List.length_replicate, hhex, hzero, by decide, rfl⟩
  have hread := parse_eq_ok_iff.mpr (Or.inr hwritten)
  obtain ⟨hex, vout, hreference, hlength, -⟩ := ((h lineEndReference).1 _).mp hread
  -- the character behind the 64 digits is a line end and no colon
  have hchars := congrArg (fun t : Text => t.repaired.toList) hreference
  simp only [lineEndReference, Text.repaired_ofString, String.toList_ofList, List.append_assoc,
    List.nil_append] at hchars
  have hbehind := (List.append_inj hchars (by rw [List.length_replicate, hlength])).2
  exact absurd (List.cons.inj hbehind).1 (by decide)

end OutPoint
end RareSats
