/-
# Rarity kinds

The kinds of positional rarity, in the order of a report. Most kinds are decided
on their own. A *derived* kind is decided along with the kind it refines.

Key definitions: `RarityKind`, `RarityKind.ofToken`, `RarityKind.parent`,
`RarityKind.evaluated`.
Key theorem: `RarityKind.token_injective`.
-/
import RareSats.Error

namespace RareSats

/-- The kinds of positional rarity, in the order of a report. -/
inductive RarityKind where
  | vintage
  | nakamoto
  | block9
  | block9_450
  | block78
  | firstTransaction
  | pizza
  | palindrome
  | perfectPalinception
  | uniformPalinception
  | paliblockPalindrome
  | alpha
  | omega
  | block286
  | block666
deriving DecidableEq, Repr

namespace RarityKind

/-- All kinds, in the order of a report. -/
def all : List RarityKind :=
  [vintage, nakamoto, block9, block9_450, block78, firstTransaction, pizza, palindrome,
    perfectPalinception, uniformPalinception, paliblockPalindrome, alpha, omega, block286, block666]

/-- The word for a kind. -/
def token : RarityKind → String
  | vintage => "vintage"
  | nakamoto => "nakamoto"
  | block9 => "block9"
  | block9_450 => "block9_450"
  | block78 => "block78"
  | firstTransaction => "firsttransaction"
  | pizza => "pizza"
  | palindrome => "palindrome"
  | perfectPalinception => "perfect_palinception"
  | uniformPalinception => "uniform_palinception"
  | paliblockPalindrome => "paliblock_palindrome"
  | alpha => "alpha"
  | omega => "omega"
  | block286 => "block286"
  | block666 => "block666"

/-- The name of the constant for a kind. -/
def constantName : RarityKind → String
  | vintage => "VINTAGE"
  | nakamoto => "NAKAMOTO"
  | block9 => "BLOCK9"
  | block9_450 => "BLOCK9_450"
  | block78 => "BLOCK78"
  | firstTransaction => "FIRST_TRANSACTION"
  | pizza => "PIZZA"
  | palindrome => "PALINDROME"
  | perfectPalinception => "PERFECT_PALINCEPTION"
  | uniformPalinception => "UNIFORM_PALINCEPTION"
  | paliblockPalindrome => "PALIBLOCK_PALINDROME"
  | alpha => "ALPHA"
  | omega => "OMEGA"
  | block286 => "BLOCK286"
  | block666 => "BLOCK666"

/-- The kind of a word, if it names one. -/
def ofToken? (word : Text) : Option RarityKind :=
  all.find? fun k => Text.ofString k.token = word

/-- The kind of a word, which must name one. -/
def ofToken (word : Text) : Except Error RarityKind :=
  match ofToken? word with
  | some k => .ok k
  | none => .error (.unknownKind word)

/-- The kinds that are decided on their own, in the order in which a report decides them. -/
def evaluated : List RarityKind :=
  [vintage, nakamoto, block9, block78, firstTransaction, pizza, palindrome, alpha, omega, block286,
    block666]

/-- The derived kinds, each with the kind that it refines. -/
def derived : List (RarityKind × RarityKind) :=
  [(block9_450, block9), (perfectPalinception, palindrome), (uniformPalinception, palindrome),
    (paliblockPalindrome, palindrome)]

/-- The kind along with which a kind is decided. -/
def parent (k : RarityKind) : RarityKind :=
  (derived.lookup k).getD k

theorem mem_all (k : RarityKind) : k ∈ all := by
  cases k <;> decide

/-- Kinds with one word are one kind. -/
theorem token_injective {a b : RarityKind} (h : a.token = b.token) : a = b := by
  have hall : ∀ x ∈ all, ∀ y ∈ all, x.token = y.token → x = y := by decide
  exact hall a (mem_all a) b (mem_all b) h

/-- Every kind is decided along with one that is decided on its own. -/
theorem parent_mem_evaluated (k : RarityKind) : k.parent ∈ evaluated := by
  cases k <;> decide

end RarityKind

end RareSats
