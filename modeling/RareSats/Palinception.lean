/-
# Palindromes made of palindromes

A text is cut into at least two segments of the same width, which is at least
two. A palindrome is a *uniform* palinception if some cut consists of palindromes
only, and a *perfect* one if some cut consists of copies of one palindrome.

Key definitions: `segments`, `palindromicCuts`, `isUniformPalinception`,
`isPerfectPalinception`.
Key theorem: `segments_flatten`.
-/
import RareSats.Palindrome

namespace RareSats

/-- The first `count` segments of width `width`. -/
def segments {α : Type} (width : Nat) : Nat → List α → List (List α)
  | 0, _ => []
  | count + 1, l => l.take width :: segments width count (l.drop width)

/-- The widths of the segments that a text of `length` characters can be cut into. -/
def cutWidths (length : Nat) : List Nat :=
  (List.range' 2 (length / 2 - 1)).filter fun w => length % w = 0

variable {α : Type} [DecidableEq α]

/-- The cuts of a text into palindromes of one width. -/
def palindromicCuts (s : List α) : List (List (List α)) :=
  ((cutWidths s.length).map fun w => segments w (s.length / w) s).filter
    fun cut => cut.all fun segment => ReadsBothWays segment

/-- All members of a list are the same. -/
def allSame : List α → Bool
  | [] => false
  | x :: xs => xs.all (· = x)

/-- A palindrome that is cut into palindromes of one width. -/
def isUniformPalinception (s : List α) : Bool :=
  ReadsBothWays s && !(palindromicCuts s).isEmpty

/-- A palindrome that is cut into copies of one palindrome. -/
def isPerfectPalinception (s : List α) : Bool :=
  ReadsBothWays s && (palindromicCuts s).any allSame

/-- Cutting loses nothing. -/
theorem segments_flatten {β : Type} (width : Nat) :
    ∀ (count : Nat) (l : List β), l.length = count * width → (segments width count l).flatten = l
  | 0, l, h => by simp_all [segments]
  | count + 1, l, h => by
    have hdrop : (l.drop width).length = count * width := by
      simp only [List.length_drop, h, Nat.add_one_mul]
      omega
    simp [segments, segments_flatten width count _ hdrop]

end RareSats
