/-
# The rarity report of a range

A report lists the kinds that a range of one block has, each with its chunks, in
the fixed order of the kinds. A kind without a chunk is not listed.

Key definitions: `evaluateAll`, `reportOf`, `reportUnder`, `report`, `Qualifies`.
-/
import RareSats.Report.Evaluate

namespace RareSats

/-- The entries of some kinds, one kind after the other. -/
def evaluateAll (q : QueryRange) : List RarityKind → Except Error (List Entry)
  | [] => .ok []
  | kind :: rest => do
    let entries ← evaluate kind q
    let others ← evaluateAll q rest
    return entries ++ others

/-- The entries of a range of one block that have a chunk. -/
def reportOf (q : QueryRange) : Except Error (List Entry) := do
  let entries ← evaluateAll q RarityKind.evaluated
  return entries.filter fun e => !e.chunks.isEmpty

/-- The report of the range with the given bounds, which must be those of sats of one block, where
numbers are written under a limit. -/
def reportUnder (limit : DigitLimit) (start stop : Int) : Except Error (List Entry) := do
  reportOf (← QueryRange.ofUnder limit start stop)

/-- The report of the range with the given bounds, which must be those of sats of one block. -/
def report (start stop : Int) : Except Error (List Entry) :=
  reportUnder .standard start stop

/-- What makes a sat one of a kind, said of the sat alone. Blocks are counted as if all were of the
size of the first ones, which puts the sats of later epochs past every height that is asked for. -/
def Qualifies (kind : RarityKind) (s : Sat) : Prop :=
  let n := s.index
  let block := n / initialSubsidy
  match kind with
  | .vintage => block ≤ 1000
  | .nakamoto => block ∈ nakamotoHeights
  | .block9 => block = 9
  | .block9_450 => 45000000000 ≤ n ∧ n < 45100000000
  | .block78 => block = 78
  | .firstTransaction => 45000000000 ≤ n ∧ n < 46000000000
  | .pizza => ∃ c ∈ pizzaRanges, c.Holds n
  | .palindrome => ReadsBothWays (digits n)
  | .perfectPalinception => ReadsBothWays (digits n) ∧ isPerfectPalinception (digits n)
  | .uniformPalinception => ReadsBothWays (digits n) ∧ isUniformPalinception (digits n)
  | .paliblockPalindrome => ReadsBothWays (digits n) ∧ ReadsBothWays (digits s.height)
  | .alpha => n % coinValue = 0
  | .omega => (n + 1) % coinValue = 0
  | .block286 => block = 286
  | .block666 => block = 666

end RareSats
