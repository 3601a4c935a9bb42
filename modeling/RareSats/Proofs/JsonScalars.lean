/-
# Scalars are read as they were written

In a string every character is written as itself or as an escape, and either is read as one
piece (`readPieces_escapePoint`), of which none is half of a pair. So a quoted text without
surrogates is read as the text (`readText_quote`). The digits of an integer are read up to
the comma or the bracket behind it, and a word is one of its own, since no number starts as
a word does.

Key definitions: `Json.pointsOf`, `Json.pieceOf`, `Json.IsBehindValue`.
Key theorems: `Json.readText_quote`, `Json.readScalar_null`, `Json.readScalar_bool`,
`Json.readScalar_int`.
-/
import Mathlib.Data.List.Basic
import RareSats.Json.Reader
import RareSats.Json.Writer
import RareSats.Proofs.IntegerText
import RareSats.Proofs.Text

namespace RareSats
namespace Json

/-! ### Strings -/

/-- The code points of a string. -/
def pointsOf (s : String) : Input :=
  s.toList.map .scalar

/-- The piece that the escape of a character is read as. -/
def pieceOf (c : Char) : CodePoint.Piece :=
  if c.toNat < 0x20 then .unit c.toNat else .point (.scalar c)

theorem unitEscape_control : ∀ n < 0x20,
    unitEscape n = ['\\', 'u', '0', '0', Nat.digitChar (n / 16), Nat.digitChar (n % 16)] ∧
      unit? (.scalar '0') (.scalar '0') (.scalar (Nat.digitChar (n / 16)))
        (.scalar (Nat.digitChar (n % 16))) = some n := by
  decide

/-- The escape of a character is read as one piece. -/
theorem readPieces_escapePoint (c : Char) (s : Input) :
    readPieces ((escapePoint (.scalar c)).map .scalar ++ s) =
      (readPieces s).map fun (pieces, rest) => (pieceOf c :: pieces, rest) := by
  by_cases hmark : c = '\x22' ∨ c = '\\'
  · have hescape : escapePoint (.scalar c) = ['\\', c] := by
      rcases hmark with rfl | rfl <;> rfl
    rw [hescape]
    rcases hmark with rfl | rfl <;> cases hs : readPieces s <;>
      simp [readPieces, escaped?, pieceOf, hs]
  · rw [not_or] at hmark
    by_cases hcontrol : c.toNat < 0x20
    · obtain ⟨hescape, hunit⟩ := unitEscape_control c.toNat hcontrol
      have hpoint : escapePoint (.scalar c) = unitEscape c.toNat := by
        simp [escapePoint, hmark, hcontrol]
      rw [hpoint, hescape]
      cases hs : readPieces s <;> simp [readPieces, hunit, pieceOf, hcontrol, hs]
    · have hpoint : escapePoint (.scalar c) = [c] := by
        simp [escapePoint, hmark, hcontrol]
      rw [hpoint]
      cases hs : readPieces s <;> simp [readPieces, hmark, pieceOf, hcontrol, hs]

theorem readPieces_flatMap (cs : List Char) (s : Input) :
    readPieces ((cs.flatMap fun c => escapePoint (.scalar c)).map .scalar ++ .scalar '\x22' :: s) =
      some (cs.map pieceOf, s) := by
  induction cs with
  | nil => rfl
  | cons c cs ih =>
    rw [List.flatMap_cons, List.map_append, List.append_assoc, readPieces_escapePoint, ih]
    rfl

theorem ofNat?_toNat (c : Char) : CodePoint.ofNat? c.toNat = some (.scalar c) := by
  have hvalid : c.toNat.isValidChar := c.valid
  rw [CodePoint.ofNat?, dif_pos hvalid]
  rfl

theorem joinPairs_pieceOf (cs : List Char) :
    CodePoint.joinPairs (cs.map pieceOf) = some (cs.map .scalar) := by
  induction cs with
  | nil => rfl
  | cons c cs ih =>
    by_cases hcontrol : c.toNat < 0x20
    · have hpiece : pieceOf c = .unit c.toNat := if_pos hcontrol
      have hhigh : CodePoint.isHigh c.toNat = false := by
        simp only [CodePoint.isHigh, Bool.and_eq_false_iff, decide_eq_false_iff_not]
        omega
      rw [List.map_cons, hpiece, CodePoint.joinPairs, ih, hhigh, ofNat?_toNat]
      rfl
    · have hpiece : pieceOf c = .point (.scalar c) := if_neg hcontrol
      rw [List.map_cons, hpiece, CodePoint.joinPairs, ih]
      rfl

theorem pointsOf_quote (t : Text) : pointsOf (quote t) =
    .scalar '\x22' :: (t.points.flatMap escapePoint ++ ['\x22']).map .scalar := by
  rw [pointsOf, quote, String.toList_ofList]
  rfl

/-- **A quoted text is read as the text.** -/
theorem readText_quote {t : Text} (ht : t.IsUnicode) (s : Input) :
    readText (pointsOf (quote t) ++ s) = .ok (t, s) := by
  obtain ⟨name, rfl⟩ := ht
  have hpoints : pointsOf (quote (.ofString name)) ++ s = .scalar '\x22' ::
      ((name.toList.flatMap fun c => escapePoint (.scalar c)).map .scalar ++
        .scalar '\x22' :: s) := by
    simp [pointsOf, quote, Text.ofString, List.flatMap_map]
  have hread : readString ((name.toList.flatMap fun c => escapePoint (.scalar c)).map .scalar ++
      .scalar '\x22' :: s) = some (name.toList.map .scalar, s) := by
    simp only [readString, readPieces_flatMap, Option.bind_eq_bind, Option.bind_some,
      joinPairs_pieceOf]
    rfl
  rw [hpoints, readText, hread]
  rfl

/-! ### Words and numbers -/

/-- The input ends, or goes on with a comma or a closing bracket, so that a number is over. -/
inductive IsBehindValue : Input → Prop
  | nil : IsBehindValue []
  | comma (rest : Input) : IsBehindValue (.scalar ',' :: rest)
  | bracket (rest : Input) : IsBehindValue (.scalar ']' :: rest)
  | brace (rest : Input) : IsBehindValue (.scalar '\x7d' :: rest)

theorem dropWord_append (word : String) (s : Input) :
    dropWord word (pointsOf word ++ s) = some s := by
  rw [dropWord, ← pointsOf, if_pos List.take_left, List.drop_left]

theorem dropWord_of_head {w : String} {c d : Char} {rest : List Char}
    (hw : w.toList = d :: rest) (hc : c ≠ d) (s : Input) :
    dropWord w (.scalar c :: s) = none := by
  refine if_neg fun heq => ?_
  rw [hw, List.map_cons, List.length_cons, List.take_succ_cons, List.cons.injEq,
    CodePoint.scalar.injEq] at heq
  exact hc heq.1

theorem readScalar_null (s : Input) : readScalar (pointsOf "null" ++ s) = .ok (null, s) := by
  rw [readScalar, dropWord_append]

theorem readScalar_bool (b : Bool) (s : Input) :
    readScalar (pointsOf (render (bool b)) ++ s) = .ok (bool b, s) := by
  cases b with
  | true =>
    have hnull : dropWord "null" (pointsOf "true" ++ s) = none :=
      dropWord_of_head (w := "null") rfl (by decide) _
    show readScalar (pointsOf "true" ++ s) = _
    rw [readScalar, dropWord_append, hnull]
  | false =>
    have hnull : dropWord "null" (pointsOf "false" ++ s) = none :=
      dropWord_of_head (w := "null") rfl (by decide) _
    have htrue : dropWord "true" (pointsOf "false" ++ s) = none :=
      dropWord_of_head (w := "true") rfl (by decide) _
    show readScalar (pointsOf "false" ++ s) = _
    rw [readScalar, dropWord_append, hnull, htrue]

/-- What starts with a digit or a minus sign is no word. -/
theorem readScalar_of_numeral {c : Char} (hc : c.isDigit = true ∨ c = '-') (s : Input) :
    readScalar (.scalar c :: s) = readNumber (.scalar c :: s) := by
  have hne : c ≠ 'n' ∧ c ≠ 't' ∧ c ≠ 'f' ∧ c ≠ 'N' ∧ c ≠ 'I' := by
    refine ⟨?_, ?_, ?_, ?_, ?_⟩ <;> rintro rfl <;> revert hc <;> decide
  rw [readScalar, dropWord_of_head (w := "null") rfl hne.1,
    dropWord_of_head (w := "true") rfl hne.2.1, dropWord_of_head (w := "false") rfl hne.2.2.1,
    dropWord_of_head (w := "NaN") rfl hne.2.2.2.1,
    dropWord_of_head (w := "Infinity") rfl hne.2.2.2.2]

variable {s : Input}

/-- Digits are read up to what stands behind a value. -/
theorem readDigits_append {ds : List Char} (hds : ∀ c ∈ ds, c.isDigit = true)
    (hs : IsBehindValue s) : readDigits (ds.map .scalar ++ s) = (ds, s) := by
  have hdigit : ∀ c ∈ ds, digit? (.scalar c) = some c := fun c hc => if_pos (hds c hc)
  have hall : ∀ p ∈ ds.map CodePoint.scalar, (digit? p).isSome = true := by
    intro p hp
    obtain ⟨c, hc, rfl⟩ := List.mem_map.mp hp
    rw [hdigit c hc]
    rfl
  have hkept : (ds.map CodePoint.scalar).filterMap digit? = ds := by
    rw [List.filterMap_map]
    exact (List.filterMap_congr hdigit).trans List.filterMap_some
  have hstop : s.takeWhile (fun p => (digit? p).isSome) = [] ∧
      s.dropWhile (fun p => (digit? p).isSome) = s := by
    cases hs <;> exact ⟨rfl, rfl⟩
  rw [readDigits, List.takeWhile_append_of_pos hall, List.dropWhile_append_of_pos hall, hstop.1,
    hstop.2, List.append_nil, hkept]

theorem readFraction_of_isBehindValue (hs : IsBehindValue s) : readFraction s = ([], s) := by
  cases hs <;> rfl

theorem readExponent_of_isBehindValue (hs : IsBehindValue s) : readExponent s = none := by
  cases hs <;> rfl

theorem readUnsigned_digits {m : Nat} (hm : m < 10 ^ Error.digitLimit) (negative : Bool)
    (hs : IsBehindValue s) : readUnsigned negative ((digits m).map .scalar ++ s) =
      .ok (int (if negative then -(m : Int) else m), s) := by
  have hlimit : ¬ Error.digitLimit < (digits m).length :=
    Nat.not_lt.mpr ((length_digits_le_iff (by decide)).mpr hm)
  rcases digits_cases m with hzero | ⟨c, rest, hcons, hc⟩
  · have hm0 : m = 0 := by
      rw [← ofDigits_digits m, hzero]
      rfl
    subst hm0
    show readUnsigned negative (.scalar '0' :: s) = _
    simp only [readUnsigned, readFraction_of_isBehindValue hs, readExponent_of_isBehindValue hs]
    cases negative <;> rfl
  · have hdigits : readDigits ((digits m).map .scalar ++ s) = (digits m, s) :=
      readDigits_append (fun c hc => isDigit_of_mem_digits hc) hs
    have hfirst : ∀ others, (digits m).map CodePoint.scalar ++ s ≠ .scalar '0' :: others := by
      intro others heq
      rw [hcons] at heq
      cases CodePoint.scalar.inj (List.cons.inj heq).1
      exact absurd hc (by decide)
    have hne : (digits m).isEmpty = false := by rw [hcons]; rfl
    rw [readUnsigned.eq_def]
    split
    rename_i whole others heq
    split at heq
    · rename_i hzero
      exact absurd hzero (hfirst _)
    · rw [hdigits] at heq
      cases heq
      simp only [hne, readFraction_of_isBehindValue hs, readExponent_of_isBehindValue hs, hlimit,
        ofDigits_digits]
      rfl

theorem pointsOf_render_int (n : Int) :
    pointsOf (render (int n)) = (decimal n).map .scalar :=
  congrArg (List.map _) (toList_toString n)

theorem exists_pointsOf_int (n : Int) : ∃ c rest,
    pointsOf (render (int n)) = .scalar c :: rest ∧ (c.isDigit = true ∨ c = '-') := by
  have hne : decimal n ≠ [] := by
    cases n with
    | ofNat m => exact List.ne_nil_of_length_pos (length_digits_pos m)
    | negSucc m => exact List.cons_ne_nil _ _
  obtain ⟨c, rest, hcons⟩ := List.exists_cons_of_ne_nil hne
  exact ⟨c, rest.map .scalar, by rw [pointsOf_render_int, hcons, List.map_cons],
    mem_decimal (hcons ▸ List.mem_cons_self)⟩

/-- Without a minus sign at its start a number is read as it is. -/
theorem readNumber_of_head {c : Char} (hc : c ≠ '-') (x : Input) :
    readNumber (.scalar c :: x) = readUnsigned false (.scalar c :: x) := by
  unfold readNumber
  split
  · rename_i heq
    exact absurd (CodePoint.scalar.inj (List.cons.inj heq).1) hc
  · rfl

theorem readScalar_int {n : Int} (hn : n.natAbs < 10 ^ Error.digitLimit) (hs : IsBehindValue s) :
    readScalar (pointsOf (render (int n)) ++ s) = .ok (int n, s) := by
  have hhead : ∀ m, ∃ c rest, digits m = c :: rest ∧ c.isDigit = true := by
    intro m
    obtain ⟨c, rest, hcons⟩ := List.exists_cons_of_length_pos (length_digits_pos m)
    exact ⟨c, rest, hcons, isDigit_of_mem_digits (hcons ▸ List.mem_cons_self)⟩
  have hne : ∀ c d : Char, c.isDigit = true → d.isDigit = false → c ≠ d := by
    rintro c d hc hd rfl
    rw [hc] at hd
    cases hd
  rw [pointsOf_render_int]
  cases n with
  | ofNat m =>
    obtain ⟨c, rest, hcons, hc⟩ := hhead m
    have hread := readUnsigned_digits (m := m) hn false hs
    rw [hcons] at hread
    rw [decimal, hcons, List.map_cons, List.cons_append, readScalar_of_numeral (Or.inl hc),
      readNumber_of_head (hne c '-' hc rfl)]
    exact hread
  | negSucc m =>
    obtain ⟨c, rest, hcons, hc⟩ := hhead (m + 1)
    have hword : dropWord "Infinity" ((digits (m + 1)).map .scalar ++ s) = none := by
      rw [hcons]
      exact dropWord_of_head (w := "Infinity") rfl (hne c 'I' hc rfl) _
    have hread := readUnsigned_digits (m := m + 1) hn true hs
    rw [decimal, List.map_cons, List.cons_append, readScalar_of_numeral (Or.inr rfl), readNumber,
      hword]
    exact hread

end Json
end RareSats
