/-
# Palinceptions are made of palindromes of one width

Cutting a text at a width and joining segments of that width undo each other
(`segments_flatten`, `segments_of_flatten`), so a text has one cut at each width. The
cuts that are looked at are therefore the lists of two or more palindromes of one width,
two or more, that make up the text (`mem_palindromicCuts`). As the reverse of copies is
made of copies of the reverse, copies of a text make up a palindrome only if the text is
one itself (`readsBothWays_copies_iff`). So a perfect palinception is a palindrome that
is repeated, or a palindrome that repeats any text at all. The reverse of a text made of
palindromes is made of the same palindromes in reverse order, so such a text reads both
ways exactly if the list of its segments does (`readsBothWays_flatten_iff`), and that is
what a uniform palinception is.

Key theorems: `segments_of_flatten`, `mem_palindromicCuts`, `readsBothWays_copies_iff`,
`isPerfectPalinception_iff`, `perfect_iff_repeated`, `readsBothWays_flatten_iff`,
`uniform_iff_mirrored`.
-/
import Mathlib.Data.Nat.Prime.Defs
import RareSats.Palinception
import RareSats.Proofs.Palindrome

namespace RareSats

variable {α : Type}

/-! ### Cuts at one width -/

theorem length_segments (width : Nat) : ∀ (count : Nat) (l : List α),
    (segments width count l).length = count
  | 0, _ => rfl
  | count + 1, l => by rw [segments, List.length_cons, length_segments width count]

theorem length_of_mem_segments (width : Nat) : ∀ (count : Nat) (l : List α),
    l.length = count * width → ∀ p ∈ segments width count l, p.length = width
  | 0, _, _ => by simp [segments]
  | count + 1, l, hl => by
    rw [Nat.add_one_mul] at hl
    intro p hp
    rw [segments, List.mem_cons] at hp
    rcases hp with rfl | hp
    · rw [List.length_take]
      omega
    · have hrest : (l.drop width).length = count * width := by
        rw [List.length_drop]
        omega
      exact length_of_mem_segments width count _ hrest p hp

theorem length_flatten_of_width {parts : List (List α)} {width : Nat}
    (h : ∀ p ∈ parts, p.length = width) : parts.flatten.length = parts.length * width := by
  rw [List.length_flatten, List.map_congr_left h, List.map_const', List.sum_replicate_nat]

/-- **Segments of one width are found again** when the text that they make up is cut. -/
theorem segments_of_flatten {width : Nat} : ∀ {parts : List (List α)},
    (∀ p ∈ parts, p.length = width) → segments width parts.length parts.flatten = parts
  | [], _ => rfl
  | p :: parts, h => by
    rw [List.forall_mem_cons] at h
    rw [List.length_cons, List.flatten_cons, segments, List.take_left' h.1, List.drop_left' h.1,
      segments_of_flatten h.2]

/-- Segments of one width that make up one text are the same. -/
theorem eq_of_flatten_eq {parts others : List (List α)} {width : Nat}
    (hparts : ∀ p ∈ parts, p.length = width) (hothers : ∀ p ∈ others, p.length = width)
    (hcount : parts.length = others.length) (h : parts.flatten = others.flatten) :
    parts = others := by
  calc parts = segments width parts.length parts.flatten := (segments_of_flatten hparts).symm
    _ = segments width others.length others.flatten := by rw [hcount, h]
    _ = others := segments_of_flatten hothers

theorem mem_cutWidths {length width : Nat} :
    width ∈ cutWidths length ↔ 2 ≤ width ∧ ∃ count, 2 ≤ count ∧ length = count * width := by
  simp only [cutWidths, List.mem_filter, List.mem_range'_1, decide_eq_true_eq]
  constructor
  · rintro ⟨⟨hwidth, hlt⟩, hmod⟩
    obtain ⟨count, rfl⟩ := Nat.dvd_of_mod_eq_zero hmod
    refine ⟨hwidth, count, ?_, Nat.mul_comm _ _⟩
    have htwice : width * 2 ≤ width * count := by omega
    exact Nat.le_of_mul_le_mul_left htwice (by omega)
  · rintro ⟨hwidth, count, hcount, rfl⟩
    have htwice : 2 * width ≤ count * width := Nat.mul_le_mul_right width hcount
    exact ⟨⟨hwidth, by omega⟩, Nat.mul_mod_left count width⟩

/-! ### Copies of one text -/

theorem allSame_iff {β : Type} [DecidableEq β] {l : List β} :
    allSame l = true ↔ ∃ k x, l = List.replicate (k + 1) x := by
  cases l with
  | nil => simp [allSame]
  | cons x rest =>
    simp only [allSame, List.all_eq_true, decide_eq_true_eq, List.replicate_succ, List.cons.injEq]
    constructor
    · intro hall
      exact ⟨rest.length, x, rfl, List.eq_replicate_of_mem hall⟩
    · rintro ⟨k, y, rfl, rfl⟩ z hz
      exact List.eq_of_mem_replicate hz

theorem length_of_mem_copies {t : List α} {k : Nat} :
    ∀ p ∈ List.replicate k t, p.length = t.length := by
  intro p hp
  rw [List.eq_of_mem_replicate hp]

/-- **Copies of a text make up a palindrome only if the text is one itself.** -/
theorem readsBothWays_copies_iff {t : List α} {k : Nat} (hk : 0 < k) :
    ReadsBothWays (List.replicate k t).flatten ↔ ReadsBothWays t := by
  have hreverse : (List.replicate k t).flatten.reverse = (List.replicate k t.reverse).flatten := by
    rw [List.reverse_flatten, List.map_replicate, List.reverse_replicate]
  unfold ReadsBothWays
  rw [hreverse]
  constructor
  · intro h
    have hwidth : ∀ p ∈ List.replicate k t.reverse, p.length = t.length := by
      intro p hp
      rw [length_of_mem_copies p hp, List.length_reverse]
    have hcopies := eq_of_flatten_eq hwidth length_of_mem_copies (by simp) h
    exact (List.replicate_inj.mp hcopies).2.resolve_left (by omega)
  · intro h
    rw [h]

/-! ### Palindromes in a row -/

/-- **Palindromes of one width make up a palindrome exactly if their list reads both ways.** -/
theorem readsBothWays_flatten_iff {parts : List (List α)} {width : Nat}
    (hwidth : ∀ p ∈ parts, p.length = width) (hparts : ∀ p ∈ parts, ReadsBothWays p) :
    ReadsBothWays parts.flatten ↔ ReadsBothWays parts := by
  have hsame : parts.map List.reverse = parts := by
    rw [List.map_congr_left hparts, List.map_id']
  have hreverse : parts.flatten.reverse = parts.reverse.flatten := by
    rw [List.reverse_flatten, hsame]
  unfold ReadsBothWays
  rw [hreverse]
  constructor
  · intro h
    have hback : ∀ p ∈ parts.reverse, p.length = width := by
      intro p hp
      exact hwidth p (List.mem_reverse.mp hp)
    exact eq_of_flatten_eq hback hwidth List.length_reverse h
  · intro h
    rw [h]

/-! ### The cuts that are looked at -/

variable [DecidableEq α] {s : List α}

/-- **The cuts that are looked at** are the lists of palindromes of one width that make up the
text. -/
theorem mem_palindromicCuts {cut : List (List α)} :
    cut ∈ palindromicCuts s ↔ cut.flatten = s ∧ 2 ≤ cut.length ∧
      (∃ width, 2 ≤ width ∧ ∀ p ∈ cut, p.length = width) ∧ ∀ p ∈ cut, ReadsBothWays p := by
  simp only [palindromicCuts, List.mem_filter, List.mem_map, List.all_eq_true, decide_eq_true_eq]
  constructor
  · rintro ⟨⟨width, hmem, rfl⟩, hpalindromes⟩
    obtain ⟨hwidth, count, hcount, hlength⟩ := mem_cutWidths.mp hmem
    have hdiv : s.length / width = count := by
      rw [hlength, Nat.mul_div_cancel count (by omega)]
    rw [hdiv] at hpalindromes ⊢
    refine ⟨segments_flatten width count s hlength, ?_, ⟨width, hwidth, ?_⟩, hpalindromes⟩
    · rw [length_segments]
      exact hcount
    · exact length_of_mem_segments width count s hlength
  · rintro ⟨rfl, hcount, ⟨width, hwidth, hparts⟩, hpalindromes⟩
    have hlength := length_flatten_of_width hparts
    have hdiv : cut.flatten.length / width = cut.length := by
      rw [hlength, Nat.mul_div_cancel cut.length (by omega)]
    refine ⟨⟨width, mem_cutWidths.mpr ⟨hwidth, cut.length, hcount, hlength⟩, ?_⟩, hpalindromes⟩
    rw [hdiv]
    exact segments_of_flatten hparts

theorem isUniformPalinception_iff_exists_cut : isUniformPalinception s = true ↔
    ReadsBothWays s ∧ ∃ cut, cut ∈ palindromicCuts s := by
  simp only [isUniformPalinception, Bool.and_eq_true, decide_eq_true_eq, Bool.not_eq_true',
    List.isEmpty_eq_false_iff_exists_mem]

theorem isPerfectPalinception_iff_exists_cut : isPerfectPalinception s = true ↔
    ReadsBothWays s ∧ ∃ cut ∈ palindromicCuts s, allSame cut = true := by
  simp only [isPerfectPalinception, Bool.and_eq_true, decide_eq_true_eq, List.any_eq_true]

/-! ### Perfect palinceptions -/

/-- A palindrome of two or more characters that is repeated is a perfect palinception, and there is
no other one. -/
theorem isPerfectPalinception_iff : isPerfectPalinception s = true ↔
    ∃ (t : List α) (k : Nat), 2 ≤ t.length ∧ 2 ≤ k ∧ ReadsBothWays t ∧
      s = (List.replicate k t).flatten := by
  rw [isPerfectPalinception_iff_exists_cut]
  constructor
  · rintro ⟨-, cut, hcut, hsame⟩
    obtain ⟨hflatten, hcount, ⟨width, hwidth, hparts⟩, hpalindromes⟩ := mem_palindromicCuts.mp hcut
    obtain ⟨k, t, rfl⟩ := allSame_iff.mp hsame
    have hmem : t ∈ List.replicate (k + 1) t := List.mem_replicate.mpr ⟨Nat.succ_ne_zero k, rfl⟩
    rw [List.length_replicate] at hcount
    exact ⟨t, k + 1, by rw [hparts t hmem]; exact hwidth, hcount, hpalindromes t hmem,
      hflatten.symm⟩
  · rintro ⟨t, k, hwidth, hcount, hpalindrome, rfl⟩
    obtain ⟨j, rfl⟩ : ∃ j, k = j + 1 := ⟨k - 1, by omega⟩
    refine ⟨(readsBothWays_copies_iff (by omega)).mpr hpalindrome, List.replicate (j + 1) t, ?_,
      allSame_iff.mpr ⟨j, t, rfl⟩⟩
    refine mem_palindromicCuts.mpr ⟨rfl, by rwa [List.length_replicate],
      ⟨t.length, hwidth, length_of_mem_copies⟩, fun p hp => ?_⟩
    rw [List.eq_of_mem_replicate hp]
    exact hpalindrome

theorem isUniform_of_isPerfect (h : isPerfectPalinception s = true) :
    isUniformPalinception s = true := by
  obtain ⟨hpalindrome, cut, hcut, -⟩ := isPerfectPalinception_iff_exists_cut.mp h
  exact isUniformPalinception_iff_exists_cut.mpr ⟨hpalindrome, cut, hcut⟩

/-- A palindrome in two halves of which the first is a palindrome is that half twice. -/
theorem isPerfect_of_halves {a b : List α} (hlength : a.length = b.length) (htwo : 2 ≤ a.length)
    (h : ReadsBothWays (a ++ b)) (ha : ReadsBothWays a) :
    isPerfectPalinception (a ++ b) = true := by
  have hback := h.eq_reverse_drop (Nat.le_of_eq hlength.symm)
  rw [hlength, Nat.sub_self, List.drop_zero, ha] at hback
  subst hback
  exact isPerfectPalinception_iff.mpr ⟨b, 2, htwo, Nat.le_refl 2, ha, by simp⟩

/-- **A perfect palinception is a palindrome repeated.** A text is one exactly if it is two or more
copies of a palindrome of two or more characters, which is to say, exactly if it is a palindrome and
two or more copies of any text of two or more characters. Every perfect palinception is a uniform
one, and every palindrome of an even length of four or more characters whose halves are palindromes
is a perfect palinception. -/
theorem perfect_iff_repeated (s : List α) :
    (isPerfectPalinception s = true ↔ ∃ (t : List α) (k : Nat), 2 ≤ t.length ∧ 2 ≤ k ∧
      t.reverse = t ∧ s = (List.replicate k t).flatten) ∧
    (isPerfectPalinception s = true ↔ s.reverse = s ∧ ∃ (t : List α) (k : Nat), 2 ≤ t.length ∧
      2 ≤ k ∧ s = (List.replicate k t).flatten) ∧
    (isPerfectPalinception s = true → isUniformPalinception s = true) ∧
    (s.reverse = s → s.length % 2 = 0 → 4 ≤ s.length →
      (s.take (s.length / 2)).reverse = s.take (s.length / 2) →
      (s.drop (s.length / 2)).reverse = s.drop (s.length / 2) →
      isPerfectPalinception s = true) := by
  refine ⟨isPerfectPalinception_iff, ?_, isUniform_of_isPerfect, fun hs heven hfour ha _ => ?_⟩
  · rw [isPerfectPalinception_iff]
    constructor
    · rintro ⟨t, k, hwidth, hcount, hpalindrome, rfl⟩
      exact ⟨(readsBothWays_copies_iff (by omega)).mpr hpalindrome, t, k, hwidth, hcount, rfl⟩
    · rintro ⟨hs, t, k, hwidth, hcount, rfl⟩
      exact ⟨t, k, hwidth, hcount, (readsBothWays_copies_iff (by omega)).mp hs, rfl⟩
  · have hsplit := List.take_append_drop (s.length / 2) s
    have hlength : (s.take (s.length / 2)).length = (s.drop (s.length / 2)).length := by
      rw [List.length_take, List.length_drop]
      omega
    have htwo : 2 ≤ (s.take (s.length / 2)).length := by
      rw [List.length_take]
      omega
    have hwhole : ReadsBothWays (s.take (s.length / 2) ++ s.drop (s.length / 2)) := by
      rw [hsplit]
      exact hs
    have hperfect := isPerfect_of_halves hlength htwo hwhole ha
    rwa [hsplit] at hperfect

/-- Seven digits that read both ways, written twice, are perfect by their halves and uniform. -/
theorem perfect_seven_digits_twice :
    isPerfectPalinception "76858677685867".toList = true ∧
      isUniformPalinception "76858677685867".toList = true := by
  have hall := perfect_iff_repeated "76858677685867".toList
  have hperfect := hall.2.2.2 (by decide) (by decide) (by decide) (by decide) (by decide)
  exact ⟨hperfect, hall.2.2.1 hperfect⟩

/-! ### Uniform palinceptions -/

/-- A list of palindromes of one width that reads both ways makes up a uniform palinception, and
there is no other one. -/
theorem isUniformPalinception_iff : isUniformPalinception s = true ↔
    ∃ parts : List (List α), parts.flatten = s ∧ 2 ≤ parts.length ∧
      (∃ width, 2 ≤ width ∧ ∀ p ∈ parts, p.length = width) ∧ (∀ p ∈ parts, ReadsBothWays p) ∧
      ReadsBothWays parts := by
  rw [isUniformPalinception_iff_exists_cut]
  constructor
  · rintro ⟨hs, parts, hcut⟩
    obtain ⟨rfl, hcount, ⟨width, hwidth, hlength⟩, hparts⟩ := mem_palindromicCuts.mp hcut
    have hmirrored := (readsBothWays_flatten_iff hlength hparts).mp hs
    exact ⟨parts, rfl, hcount, ⟨width, hwidth, hlength⟩, hparts, hmirrored⟩
  · rintro ⟨parts, rfl, hcount, ⟨width, hwidth, hlength⟩, hparts, hmirrored⟩
    refine ⟨(readsBothWays_flatten_iff hlength hparts).mpr hmirrored, parts, ?_⟩
    exact mem_palindromicCuts.mpr ⟨rfl, hcount, ⟨width, hwidth, hlength⟩, hparts⟩

/-- The length of a uniform palinception is a product of two numbers that are both two or more. -/
theorem length_of_isUniform (h : isUniformPalinception s = true) :
    ∃ count width, 2 ≤ count ∧ 2 ≤ width ∧ s.length = count * width := by
  obtain ⟨parts, rfl, hcount, ⟨width, hwidth, hlength⟩, -⟩ := isUniformPalinception_iff.mp h
  exact ⟨parts.length, width, hcount, hwidth, length_flatten_of_width hlength⟩

/-- **A uniform palinception is a mirrored list of palindromes.** A text is one exactly if it is
made of two or more palindromes of one width of two or more characters, and the list of these reads
the same in both directions. No text of fewer than four characters is one, and none of a prime
number of characters. -/
theorem uniform_iff_mirrored (s : List α) :
    (isUniformPalinception s = true ↔ ∃ parts : List (List α), parts.flatten = s ∧
      2 ≤ parts.length ∧ (∃ width, 2 ≤ width ∧ ∀ p ∈ parts, p.length = width) ∧
      (∀ p ∈ parts, p.reverse = p) ∧ parts.reverse = parts) ∧
    (s.length < 4 → isUniformPalinception s = false) ∧
    (s.length.Prime → isUniformPalinception s = false) := by
  refine ⟨isUniformPalinception_iff, fun hshort => ?_, fun hprime => ?_⟩
  · apply Bool.eq_false_of_not_eq_true
    intro h
    obtain ⟨count, width, hcount, hwidth, hlength⟩ := length_of_isUniform h
    have hfour : 2 * 2 ≤ count * width := Nat.mul_le_mul hcount hwidth
    omega
  · apply Bool.eq_false_of_not_eq_true
    intro h
    obtain ⟨count, width, hcount, hwidth, hlength⟩ := length_of_isUniform h
    have hdvd : count ∣ s.length := ⟨width, hlength⟩
    have hlt : count * 1 < count * width := Nat.mul_lt_mul_of_pos_left (by omega) (by omega)
    rcases hprime.eq_one_or_self_of_dvd count hdvd with hone | hself
    · omega
    · omega

/-- Three segments of five digits, of which the first is the last one, are uniform, though they are
not all the same; seven digits are not. -/
theorem uniform_three_segments :
    isUniformPalinception "400041111140004".toList = true ∧
      isPerfectPalinception "400041111140004".toList = false ∧
      isUniformPalinception "1234321".toList = false := by
  have hparts := uniform_iff_mirrored "400041111140004".toList
  have huniform := hparts.1.mpr ⟨["40004".toList, "11111".toList, "40004".toList], by decide,
    by decide, ⟨5, by decide, by decide⟩, by decide, by decide⟩
  have hseven := (uniform_iff_mirrored "1234321".toList).2.2 Nat.prime_seven
  exact ⟨huniform, by decide, hseven⟩

end RareSats
