/-
# Integers that come as texts

A text of an integer may be spelled in many ways, but the integer is read from a plain
form, a minus sign at will and digits, of which there are not more than are ever
converted. So an integer that is read from a text is a short one (`natAbs_lt_of_read`). The
decimal text of an integer is its own plain form (`plainForm?_decimal`), so the integers
that are read from a text are those of which the decimal text is read as them
(`integerOfText_decimal`).

Key theorems: `natAbs_lt_of_read`, `plainForm?_decimal`, `integerOfText_decimal`,
`checkInteger_toString`.
-/
import Mathlib.Data.List.TakeWhile
import RareSats.Proofs.Reference
import RareSats.Wire.Lax

namespace RareSats

variable {n : Int} {s : List Char}

/-! ### What is read is short -/

theorem isDigit_of_isPositiveDigit {c : Char} (h : isPositiveDigit c = true) :
    c.isDigit = true := by
  simp only [isPositiveDigit, Bool.and_eq_true, decide_eq_true_eq, Char.le_def,
    UInt32.le_iff_toNat_le] at h
  have hzero : '0'.toNat = 48 := rfl
  have hnine : '9'.toNat = 57 := rfl
  rw [Char.isDigit_iff_toNat, hzero, hnine]
  simp at h
  omega

theorem isCanonicalDecimal_cons {c : Char} {rest : List Char} (hc : isPositiveDigit c = true)
    (hrest : ∀ d ∈ rest, d.isDigit = true) : IsCanonicalDecimal (c :: rest) where
  ne_nil := List.cons_ne_nil _ _
  isDigit := List.forall_mem_cons.mpr ⟨isDigit_of_isPositiveDigit hc, hrest⟩
  eq_zero h := by
    rw [Option.some.inj h] at hc
    exact absurd hc (by decide)

theorem lt_of_plainNatural? {m : Nat} (h : plainNatural? s = some m) :
    m < 10 ^ Error.digitLimit := by
  unfold plainNatural? at h
  split at h
  · cases h
    exact Nat.pow_pos (by decide)
  · rename_i c rest _
    split at h
    · rename_i hplain
      cases h
      simp only [Bool.and_eq_true, List.all_eq_true, decide_eq_true_eq] at hplain
      obtain ⟨⟨hc, hrest⟩, hlength⟩ := hplain
      have hcanonical := isCanonicalDecimal_cons hc hrest
      have hlimit : (digits (ofDigits (c :: rest))).length ≤ Error.digitLimit := by
        rw [hcanonical.digits_ofDigits, List.length_cons]
        exact hlength
      exact (length_digits_le_iff (by decide)).mp hlimit
    · cases h
  · cases h

theorem natAbs_lt_of_plainInteger? (h : plainInteger? s = some n) :
    n.natAbs < 10 ^ Error.digitLimit := by
  unfold plainInteger? at h
  split at h
  · rename_i ds
    cases hm : plainNatural? ds with
    | none =>
      rw [hm] at h
      cases h
    | some m =>
      rw [hm] at h
      cases h
      rw [Int.natAbs_neg, Int.natAbs_natCast]
      exact lt_of_plainNatural? hm
  · obtain ⟨m, hm, rfl⟩ := Option.map_eq_some_iff.mp h
    exact lt_of_plainNatural? hm

/-- **An integer that is read from a text is short.** -/
theorem natAbs_lt_of_read (h : integerOfText s = .ok n) : n.natAbs < 10 ^ Error.digitLimit := by
  unfold integerOfText at h
  split at h
  · cases h
  · split at h
    · rename_i hplain
      cases h
      obtain ⟨form, -, hform⟩ := Option.bind_eq_some_iff.mp hplain
      exact natAbs_lt_of_plainInteger? hform
    · cases h

/-! ### The decimal text of an integer -/

/-- The digits of a number start with one that is not zero, or they are a zero. -/
theorem digits_cases (m : Nat) : digits m = ['0'] ∨
    ∃ c rest, digits m = c :: rest ∧ isPositiveDigit c = true := by
  rcases Nat.eq_zero_or_pos m with rfl | hm
  · exact Or.inl rfl
  · obtain ⟨c, rest, hdigits⟩ := List.exists_cons_of_length_pos (length_digits_pos m)
    have hfirst := head?_digits_ne_zero hm
    have hc : c.isDigit = true := isDigit_of_mem_digits (hdigits ▸ List.mem_cons_self)
    rw [hdigits, List.head?_cons, ne_eq, Option.some_inj] at hfirst
    obtain ⟨d, hd, rfl⟩ := exists_digitChar_eq hc
    have hall : ∀ k < 10, Nat.digitChar k ≠ '0' → isPositiveDigit (Nat.digitChar k) = true := by
      decide
    exact Or.inr ⟨_, rest, hdigits, hall d hd hfirst⟩

theorem plainNatural?_digits {m : Nat} (hm : m < 10 ^ Error.digitLimit) :
    plainNatural? (digits m) = some m := by
  have hlimit : (digits m).length ≤ Error.digitLimit := (length_digits_le_iff (by decide)).mpr hm
  have hvalue := ofDigits_digits m
  have hdigits := fun c (hc : c ∈ digits m) => isDigit_of_mem_digits hc
  rcases digits_cases m with hzero | ⟨c, rest, hcons, hc⟩
  · rw [hzero] at hvalue ⊢
    rw [← hvalue]
    rfl
  · rw [hcons] at hvalue hlimit hdigits ⊢
    have hplain : (isPositiveDigit c && rest.all Char.isDigit &&
        decide (rest.length < Error.digitLimit)) = true := by
      rw [Bool.and_eq_true, Bool.and_eq_true, List.all_eq_true, decide_eq_true_eq]
      exact ⟨⟨hc, (List.forall_mem_cons.mp hdigits).2⟩, hlimit⟩
    unfold plainNatural?
    split
    · rename_i heq
      cases heq
      exact absurd hc (by decide)
    · rename_i heq
      cases heq
      rw [if_pos hplain, hvalue]
    · rename_i heq
      cases heq

theorem plainInteger?_of_head (h : s.head? ≠ some '-') :
    plainInteger? s = (plainNatural? s).map Int.ofNat := by
  unfold plainInteger?
  split
  · exact absurd rfl h
  · rfl

theorem head?_digits_ne_minus (m : Nat) : (digits m).head? ≠ some '-' := by
  intro hhead
  have hdigit := isDigit_of_mem_digits (List.mem_of_head? hhead)
  exact absurd hdigit (by decide)

theorem plainInteger?_decimal (hn : n.natAbs < 10 ^ Error.digitLimit) :
    plainInteger? (decimal n) = some n := by
  cases n with
  | ofNat m =>
    have hvalue : plainNatural? (digits m) = some m := plainNatural?_digits hn
    rw [decimal, plainInteger?_of_head (head?_digits_ne_minus m), hvalue]
    rfl
  | negSucc m =>
    have hvalue : plainNatural? (digits (m + 1)) = some (m + 1) := plainNatural?_digits hn
    rw [decimal, plainInteger?, hvalue]
    rfl

theorem mem_decimal {c : Char} (hc : c ∈ decimal n) : c.isDigit = true ∨ c = '-' := by
  cases n with
  | ofNat m => exact Or.inl (isDigit_of_mem_digits hc)
  | negSucc m =>
    rcases List.mem_cons.mp hc with rfl | hc
    · exact Or.inr rfl
    · exact Or.inl (isDigit_of_mem_digits hc)

/-- What neither digits nor a minus sign are does not stand in a decimal text. -/
theorem notMem_decimal {c : Char} (hdigit : c.isDigit = false) (hminus : c ≠ '-') :
    c ∉ decimal n := by
  intro hc
  rcases mem_decimal hc with h | h
  · rw [hdigit] at h
    cases h
  · exact hminus h

theorem isBlankChar_of_mem_decimal {c : Char} (hc : c ∈ decimal n) : isBlankChar c = false := by
  rcases mem_decimal hc with h | rfl
  · obtain ⟨d, hd, rfl⟩ := exists_digitChar_eq h
    have hall : ∀ k < 10, isBlankChar (Nat.digitChar k) = false := by decide
    exact hall d hd
  · decide

/-! ### Nothing is left out of a decimal text -/

theorem trimBlanks_of_forall (h : ∀ c ∈ s, isBlankChar c = false) : trimBlanks s = s := by
  have hkeep : ∀ l : List Char, (∀ c ∈ l, isBlankChar c = false) → l.dropWhile isBlankChar = l := by
    intro l hl
    cases l with
    | nil => rfl
    | cons c rest => rw [List.dropWhile_cons_of_neg (by simp [hl c List.mem_cons_self])]
  have hback : ∀ c ∈ s.reverse, isBlankChar c = false := fun c hc => h c (List.mem_reverse.mp hc)
  rw [trimBlanks, hkeep s h, hkeep _ hback, List.reverse_reverse]

theorem dropPlus_of_notMem (h : '+' ∉ s) : dropPlus s = s := by
  unfold dropPlus
  split
  · rfl
  · exact absurd List.mem_cons_self h
  · rfl

theorem dropZeroFraction_of_notMem (h : '.' ∉ s) : dropZeroFraction s = s := by
  have hnone : s.dropWhile (fun c => decide (c ≠ '.')) = [] := by
    refine List.dropWhile_eq_nil_iff.mpr fun c hc => decide_eq_true fun heq => ?_
    exact h (heq ▸ hc)
  rw [dropZeroFraction, hnone]

theorem dropUnderscores_of_notMem (h : '_' ∉ s) : dropUnderscores s = s := by
  unfold dropUnderscores
  split
  · rfl
  · refine List.filter_eq_self.mpr fun c hc => decide_eq_true fun heq => ?_
    exact h (heq ▸ hc)

theorem dropZeros_digits (m : Nat) : dropZeros (digits m) = some (digits m) := by
  rcases digits_cases m with hzero | ⟨c, rest, hcons, hc⟩
  · rw [hzero]
    rfl
  · have hne : c ≠ '0' := by
      rintro rfl
      exact absurd hc (by decide)
    rw [hcons, dropZeros, if_neg hne, if_pos (Or.inl hc)]

theorem dropZerosAfterMinus_decimal (n : Int) :
    dropZerosAfterMinus (decimal n) = some (decimal n) := by
  cases n with
  | ofNat m =>
    have hhead := head?_digits_ne_minus m
    rw [decimal]
    unfold dropZerosAfterMinus
    split
    · rename_i heq
      rw [heq] at hhead
      exact absurd rfl hhead
    · exact dropZeros_digits m
  | negSucc m =>
    rw [decimal, dropZerosAfterMinus, dropZeros_digits, Option.map_some]

/-- **The decimal text of an integer is its own plain form.** -/
theorem plainForm?_decimal (n : Int) : plainForm? (decimal n) = some (decimal n) := by
  have hplus : '+' ∉ decimal n := notMem_decimal (by decide) (by decide)
  have hpoint : '.' ∉ decimal n := notMem_decimal (by decide) (by decide)
  have hunderscore : '_' ∉ decimal n := notMem_decimal (by decide) (by decide)
  rw [plainForm?, trimBlanks_of_forall fun c hc => isBlankChar_of_mem_decimal hc,
    dropPlus_of_notMem hplus, dropZerosAfterMinus_decimal, Option.map_some,
    dropZeroFraction_of_notMem hpoint, dropUnderscores_of_notMem hunderscore]

theorem length_openingDigits_le (s : List Char) : (openingDigits s).length ≤ s.length := by
  unfold openingDigits
  split
  · split
    · exact Nat.succ_le_succ (List.takeWhile_sublist _).length_le
    · exact Nat.zero_le _
  · exact Nat.le_refl _

theorem opensTooLong_decimal (hn : n.natAbs < 10 ^ Error.digitLimit) :
    opensTooLong (decimal n) = false := by
  have hlength : (digits n.natAbs).length ≤ Error.digitLimit :=
    (length_digits_le_iff (by decide)).mpr hn
  have hopening := Nat.le_trans (length_openingDigits_le (digits n.natAbs)) hlength
  cases n with
  | ofNat m =>
    have hhead := head?_digits_ne_minus m
    rw [decimal]
    unfold opensTooLong
    split
    · rename_i heq
      rw [heq] at hhead
      exact absurd rfl hhead
    · exact decide_eq_false (Nat.not_lt.mpr hopening)
  | negSucc m =>
    rw [decimal, opensTooLong]
    exact decide_eq_false (Nat.not_lt.mpr hopening)

/-- **The decimal text of a short integer is read as the integer.** -/
theorem integerOfText_decimal (hn : n.natAbs < 10 ^ Error.digitLimit) :
    integerOfText (decimal n) = .ok n := by
  have hplain : (plainForm? (decimal n)).bind plainInteger? = some n := by
    rw [plainForm?_decimal, Option.bind_some, plainInteger?_decimal hn]
  rw [integerOfText, opensTooLong_decimal hn, if_neg Bool.false_ne_true, hplain]

/-! ### Keys -/

theorem toList_toString (n : Int) : (toString n).toList = decimal n := by
  cases n with
  | ofNat m => exact Nat.toList_repr
  | negSucc m =>
    show ("-" ++ (m + 1).repr).toList = _
    rw [String.toList_append, Nat.toList_repr]
    rfl

/-- **The decimal text of a short integer is taken for the integer.** -/
theorem checkInteger_toString (hn : n.natAbs < 10 ^ Error.digitLimit) :
    checkInteger (.ofString (toString n)) = .ok n := by
  simp only [Json.ofString, checkInteger, Text.string?_ofString, toList_toString,
    integerOfText_decimal hn]

theorem natAbs_lt_of_checkInteger {t : Text} (h : checkInteger (.str t) = .ok n) :
    n.natAbs < 10 ^ Error.digitLimit := by
  simp only [checkInteger] at h
  split at h
  · cases h
  · split at h
    · rename_i hread
      cases h
      exact natAbs_lt_of_read hread
    · cases h
    · cases h

end RareSats
