/-
# Names count down to the end of the supply

Every number has one numeral of letters and every numeral of letters is that of one
number, since each number after zero is 26 times one number and a digit from 1 to 26 in
exactly one way (`Letters.value_ofNat`, `Letters.ofNat_value`). The numerals of one length
stand for numbers between two bounds that numerals of other lengths do not reach
(`Letters.value_bounds`), and among them the first letter that differs decides; so
numbers are ordered as their numerals are, by length and then by alphabet
(`Letters.value_lt_iff`). A numeral is found by taking letters off a number until nothing
is left of it, one round for each letter (`Letters.iterate_takeOff`). The name of a sat is
the numeral of the number of sats from it to the end, so later sats have earlier names.

Key definitions: `Letters.IsLetter`, `Letters.takeOff`.
Key theorems: `Letters.ofNat_value`, `Letters.value_lt_iff`, `Letters.iterate_takeOff`,
`Sat.existsUnique_name`, `Sat.name_counts_down`.
-/
import Mathlib.Data.List.Induction
import Mathlib.Data.List.Shortlex
import RareSats.Proofs.Place
import RareSats.Sat.Name

namespace RareSats

namespace Letters

/-! ### Letters and their digits -/

/-- A letter from `a` to `z`. -/
def IsLetter (c : Char) : Prop :=
  'a' ≤ c ∧ c ≤ 'z'

instance (c : Char) : Decidable (IsLetter c) := inferInstanceAs (Decidable (_ ∧ _))

theorem isLetter_iff_toNat {c : Char} : IsLetter c ↔ 97 ≤ c.toNat ∧ c.toNat ≤ 122 :=
  Iff.rfl

theorem isLetter_letter {d : Nat} (h : d < 26) : IsLetter (letter d) := by
  have hall : ∀ k, k < 26 → IsLetter (letter k) := by decide
  exact hall d h

theorem digit_eq {c : Char} : digit c = c.toNat - 97 + 1 := rfl

theorem exists_letter_eq {c : Char} (hc : IsLetter c) : ∃ d, d < 26 ∧ letter d = c := by
  rw [isLetter_iff_toNat] at hc
  refine ⟨c.toNat - 97, by omega, ?_⟩
  have hsum : 'a'.toNat + (c.toNat - 97) = c.toNat := Nat.add_sub_cancel' hc.1
  rw [letter, hsum, Char.ofNat_toNat]

theorem digit_bounds {c : Char} (hc : IsLetter c) : 1 ≤ digit c ∧ digit c ≤ 26 := by
  rw [isLetter_iff_toNat] at hc
  rw [digit_eq]
  omega

theorem digit_lt_digit {c d : Char} (hc : IsLetter c) (h : c < d) : digit c < digit d := by
  rw [isLetter_iff_toNat] at hc
  have hlt : c.toNat < d.toNat := h
  rw [digit_eq, digit_eq]
  omega

/-! ### Numerals and numbers -/

theorem ofNat_zero : ofNat 0 = [] := by
  rw [ofNat, if_pos rfl]

theorem ofNat_succ (x : Nat) : ofNat (x + 1) = ofNat (x / 26) ++ [letter (x % 26)] := by
  rw [ofNat, if_neg (Nat.succ_ne_zero x), Nat.add_sub_cancel]

theorem ofNat_ne_nil {x : Nat} (h : 0 < x) : ofNat x ≠ [] := by
  obtain ⟨y, rfl⟩ := Nat.exists_eq_succ_of_ne_zero (Nat.ne_of_gt h)
  simp [ofNat_succ]

theorem isLetter_of_mem_ofNat (x : Nat) : ∀ c ∈ ofNat x, IsLetter c := by
  induction x using Nat.strongRecOn with
  | _ x ih =>
    cases x with
    | zero => simp [ofNat_zero]
    | succ x =>
      intro c hc
      rw [ofNat_succ, List.mem_append, List.mem_singleton] at hc
      rcases hc with hc | rfl
      · exact ih (x / 26) (by omega) c hc
      · exact isLetter_letter (Nat.mod_lt x (by decide))

/-- **Letters are the numeral of the number that they stand for.** -/
theorem ofNat_value {l : List Char} (hl : ∀ c ∈ l, IsLetter c) : ofNat (value l) = l := by
  induction l using List.reverseRecOn with
  | nil => exact ofNat_zero
  | append_singleton l c ih =>
    rw [List.forall_mem_append, List.forall_mem_singleton] at hl
    obtain ⟨d, hd, rfl⟩ := exists_letter_eq hl.2
    have hdiv : (26 * value l + d) / 26 = value l := by omega
    have hmod : (26 * value l + d) % 26 = d := by omega
    rw [value_append_singleton, digit_letter hd, ← Nat.add_assoc, ofNat_succ, hdiv, hmod,
      ih hl.1]

/-! ### The order of numerals -/

theorem value_cons (c : Char) (l : List Char) :
    value (c :: l) = digit c * 26 ^ l.length + value l := by
  induction l using List.reverseRecOn with
  | nil => simp [value]
  | append_singleton l d ih =>
    rw [← List.cons_append, value_append_singleton, value_append_singleton, ih,
      List.length_append, List.length_singleton]
    calc 26 * (digit c * 26 ^ l.length + value l) + digit d
        = digit c * (26 ^ l.length * 26) + (26 * value l + digit d) := by
          rw [Nat.mul_add, ← Nat.mul_assoc (digit c), Nat.mul_comm 26, Nat.add_assoc]
      _ = digit c * 26 ^ (l.length + 1) + (26 * value l + digit d) := by rw [← Nat.pow_succ]

/-- The numbers of the numerals of one length lie between those of `aa..a` and `zz..z`. -/
theorem value_bounds {l : List Char} (hl : ∀ c ∈ l, IsLetter c) :
    26 ^ l.length ≤ 25 * value l + 1 ∧ 25 * value l + 26 ≤ 26 ^ (l.length + 1) := by
  induction l using List.reverseRecOn with
  | nil => simp [value]
  | append_singleton l c ih =>
    rw [List.forall_mem_append, List.forall_mem_singleton] at hl
    have hdigit := digit_bounds hl.2
    have hbounds := ih hl.1
    rw [value_append_singleton, List.length_append, List.length_singleton]
    simp only [Nat.pow_succ] at hbounds ⊢
    omega

theorem value_lt_of_length_lt {a b : List Char} (ha : ∀ c ∈ a, IsLetter c)
    (hb : ∀ c ∈ b, IsLetter c) (h : a.length < b.length) : value a < value b := by
  have hupper := (value_bounds ha).2
  have hlower := (value_bounds hb).1
  have hpow : 26 ^ (a.length + 1) ≤ 26 ^ b.length := Nat.pow_le_pow_right (by decide) h
  omega

/-- Of two numerals of one length, the first letters that differ decide. -/
theorem value_lt_of_lex {a b : List Char} (ha : ∀ c ∈ a, IsLetter c)
    (hb : ∀ c ∈ b, IsLetter c) (hlen : a.length = b.length) (h : List.Lex (· < ·) a b) :
    value a < value b := by
  induction h with
  | nil => cases hlen
  | cons _ ih =>
    rw [List.forall_mem_cons] at ha hb
    have htail := ih ha.2 hb.2 (Nat.succ.inj hlen)
    rw [value_cons, value_cons, Nat.succ.inj hlen]
    omega
  | @rel c l d m hlt =>
    rw [List.forall_mem_cons] at ha hb
    have hdigit : digit c + 1 ≤ digit d := digit_lt_digit ha.1 hlt
    have hlength : l.length = m.length := Nat.succ.inj hlen
    have hupper := (value_bounds ha.2).2
    have hlower := (value_bounds hb.2).1
    -- the letters behind make up less than one step of the letter in front
    have hlead : (digit c + 1) * 26 ^ m.length ≤ digit d * 26 ^ m.length :=
      Nat.mul_le_mul_right _ hdigit
    rw [hlength, Nat.pow_succ] at hupper
    rw [Nat.succ_mul] at hlead
    rw [value_cons, value_cons, hlength]
    omega

theorem value_lt_of_shortlex {a b : List Char} (ha : ∀ c ∈ a, IsLetter c)
    (hb : ∀ c ∈ b, IsLetter c) (h : List.Shortlex (· < ·) a b) : value a < value b := by
  rcases List.shortlex_def.mp h with hlt | ⟨hlen, hlex⟩
  · exact value_lt_of_length_lt ha hb hlt
  · exact value_lt_of_lex ha hb hlen hlex

/-- **Numbers are ordered as their numerals are**, by length and then by alphabet. -/
theorem value_lt_iff {a b : List Char} (ha : ∀ c ∈ a, IsLetter c) (hb : ∀ c ∈ b, IsLetter c) :
    value a < value b ↔ List.Shortlex (· < ·) a b := by
  refine ⟨fun hlt => ?_, value_lt_of_shortlex ha hb⟩
  by_contra hnot
  have hback : ¬ List.Shortlex (· < ·) b a := fun h =>
    Nat.lt_asymm hlt (value_lt_of_shortlex hb ha h)
  have heq : a = b := Std.Trichotomous.trichotomous a b hnot hback
  rw [heq] at hlt
  exact Nat.lt_irrefl _ hlt

/-! ### Writing a numeral -/

/-- A round of writing: a letter is taken off what is left of a number, and put in front of the
letters that were taken off before. -/
def takeOff (p : Nat × List Char) : Nat × List Char :=
  ((p.1 - 1) / 26, letter ((p.1 - 1) % 26) :: p.2)

/-- **Writing ends after one round for each letter**, with nothing left of the number and with its
numeral written. -/
theorem iterate_takeOff (x : Nat) : ∀ written : List Char,
    takeOff^[(ofNat x).length] (x, written) = (0, ofNat x ++ written) := by
  induction x using Nat.strongRecOn with
  | _ x ih =>
    intro written
    cases x with
    | zero => simp [ofNat_zero]
    | succ x =>
      have hround : takeOff (x + 1, written) = (x / 26, letter (x % 26) :: written) := rfl
      rw [ofNat_succ, List.length_append, List.length_singleton, Function.iterate_succ_apply,
        hround, ih (x / 26) (by omega), List.append_assoc]
      rfl

/-- Before each of these rounds something is left of the number. -/
theorem iterate_takeOff_pos (x : Nat) : ∀ (written : List Char) (rounds : Nat),
    rounds < (ofNat x).length → 0 < (takeOff^[rounds] (x, written)).1 := by
  induction x using Nat.strongRecOn with
  | _ x ih =>
    intro written rounds hrounds
    cases x with
    | zero => simp [ofNat_zero] at hrounds
    | succ x =>
      cases rounds with
      | zero => exact Nat.succ_pos x
      | succ rounds =>
        rw [ofNat_succ, List.length_append, List.length_singleton] at hrounds
        rw [Function.iterate_succ_apply]
        exact ih (x / 26) (by omega) _ rounds (by omega)

end Letters

/-! ### The names of sats -/

namespace Sat

theorem toList_name (s : Sat) : s.name.toList = Letters.ofNat (supply - s.index) :=
  String.toList_ofList

theorem value_name (s : Sat) : Letters.value s.name.toList = supply - s.index := by
  rw [s.toList_name, Letters.value_ofNat]

theorem isLetter_of_mem_name (s : Sat) : ∀ c ∈ s.name.toList, Letters.IsLetter c := by
  rw [s.toList_name]
  exact Letters.isLetter_of_mem_ofNat _

theorem name_ne_empty (s : Sat) : s.name ≠ "" := by
  intro h
  have hnil := s.toList_name
  rw [h] at hnil
  exact Letters.ofNat_ne_nil (Nat.sub_pos_of_lt s.lt_supply) hnil.symm

theorem name_injective {s t : Sat} (h : s.name = t.name) : s = t := by
  have hvalue : supply - s.index = supply - t.index := by
    rw [← s.value_name, ← t.value_name, h]
  have hs := s.lt_supply
  have ht := t.lt_supply
  exact index_injective (by omega)

/-- **Every numeral up to the supply is the name of one sat.** -/
theorem existsUnique_name {t : String} (hne : t ≠ "") (ht : ∀ c ∈ t.toList, Letters.IsLetter c)
    (hle : Letters.value t.toList ≤ supply) : ∃! s : Sat, s.name = t := by
  have hlen : 0 < t.toList.length :=
    List.length_pos_of_ne_nil fun h => hne (String.toList_eq_nil_iff.mp h)
  have hpos : 0 < Letters.value t.toList := by
    have hlower := (Letters.value_bounds ht).1
    have hpow : 26 ^ 1 ≤ 26 ^ t.toList.length := Nat.pow_le_pow_right (by decide) hlen
    omega
  have hback : supply - (supply - Letters.value t.toList) = Letters.value t.toList :=
    Nat.sub_sub_self hle
  have hname : Sat.name ⟨supply - Letters.value t.toList, by omega⟩ = t := by
    rw [name, hback, Letters.ofNat_value ht, String.ofList_toList]
  exact ⟨_, hname, fun s hs => name_injective (hs.trans hname.symm)⟩

theorem index_lt_iff_shortlex (s t : Sat) :
    s.index < t.index ↔ List.Shortlex (· < ·) t.name.toList s.name.toList := by
  rw [← Letters.value_lt_iff t.isLetter_of_mem_name s.isLetter_of_mem_name, s.value_name,
    t.value_name]
  have hs := s.lt_supply
  have ht := t.lt_supply
  omega

/-- **Names number the sats from the end of the supply.** Writing the name of a sat ends after one
round for each letter, the name is a numeral of letters, not an empty one, and stands for the number
of sats from the sat to the end. Every such numeral for a number up to the supply is the name of one
sat, and of two sats the later one has the name that comes first by length and then by alphabet. -/
theorem name_counts_down :
    (∀ s : Sat,
      (Letters.takeOff^[s.name.toList.length] (supply - s.index, []) = (0, s.name.toList) ∧
        ∀ rounds, rounds < s.name.toList.length →
          0 < (Letters.takeOff^[rounds] (supply - s.index, [])).1) ∧
      s.name ≠ "" ∧ (∀ c ∈ s.name.toList, 'a' ≤ c ∧ c ≤ 'z') ∧
      Letters.value s.name.toList = supply - s.index) ∧
    (∀ t : String, t ≠ "" → (∀ c ∈ t.toList, 'a' ≤ c ∧ c ≤ 'z') →
      Letters.value t.toList ≤ supply → ∃! s : Sat, s.name = t) ∧
    ∀ s t : Sat, s.index < t.index ↔ List.Shortlex (· < ·) t.name.toList s.name.toList := by
  refine ⟨fun s => ⟨?_, s.name_ne_empty, s.isLetter_of_mem_name, s.value_name⟩,
    fun t => existsUnique_name, index_lt_iff_shortlex⟩
  have hwritten := Letters.iterate_takeOff (supply - s.index) []
  rw [List.append_nil] at hwritten
  rw [s.toList_name]
  exact ⟨hwritten, Letters.iterate_takeOff_pos (supply - s.index) []⟩

/-- The longest of the numerals that are names, that of the supply, is the name of one sat. -/
theorem name_of_whole_supply : Letters.value "nvtdijuwxlp".toList = supply ∧
    ∃! s : Sat, s.name = "nvtdijuwxlp" :=
  ⟨by decide, name_counts_down.2.1 "nvtdijuwxlp" (by decide) (by simp) (by decide)⟩

end Sat

end RareSats
