/-
# Which chunks of a range are rare

Each kind that is decided on its own has a rule that reads the bounds and the
height of a range of one block, and gives the chunks of the range that are of the
kind, together with those of the kinds derived from it.

Key definitions: `Entry`, `evaluate`, `ownRule`, `evaluateCurated`, `evaluateKind`.
-/
import RareSats.Curated.Pizza
import RareSats.Palinception
import RareSats.QueryRange
import RareSats.WholeCoin

namespace RareSats

/-- The chunks that are of one kind. -/
structure Entry where
  kind : RarityKind
  chunks : List Chunk
deriving DecidableEq, Repr

/-- The last height that counts as vintage. -/
def vintageHeight : Int := 1000

/-- The heights of the blocks that are ascribed to the first miner. -/
def nakamotoHeights : List Nat :=
  [9, 286, 688, 877, 1760, 2459, 2485, 3479, 5326, 9443, 9925, 10645, 14450, 15625, 15817, 19093,
    23014, 28593, 29097]

/-- The sat after those of block 9 that were the first to be paid. -/
def firstTransactionEnd : Int := 46000000000

/-- The sat after the first ones of block 9. -/
def block9_450End : Int := 45100000000

/-- The whole range if it is of a kind, and no chunk otherwise. -/
def wholeIf (kind : RarityKind) (q : QueryRange) (isOfKind : Bool) : Entry :=
  ⟨kind, if isOfKind then q.whole else []⟩

/-- The part of a range before `limit`. -/
def partBefore (limit : Int) (q : QueryRange) : List Chunk :=
  if q.start < limit then [⟨q.start, min limit q.stop⟩] else []

/-- The palindromes of a range, with the palinceptions among them, and all of them once more if the
height is a palindrome too. -/
def evaluatePalindromes (q : QueryRange) : Except Error (List Entry) := do
  let isPaliblock ← checkPalindrome q.height
  let found ← palindromes q.start (q.stop - 1)
  return [
    ⟨.palindrome, Chunk.singles found⟩,
    ⟨.perfectPalinception, Chunk.singles (found.filter (isPerfectPalinception ∘ decimal))⟩,
    ⟨.uniformPalinception, Chunk.singles (found.filter (isUniformPalinception ∘ decimal))⟩,
    ⟨.paliblockPalindrome, if isPaliblock then Chunk.singles found else []⟩]

/-- The parts of a range inside the curated intervals at its height. -/
def evaluateCurated (kind : RarityKind) (rangesAt : Int → Except Error (List Chunk))
    (q : QueryRange) : Except Error (List Entry) := do
  let curated ← rangesAt q.height
  return [⟨kind, Chunk.intersect q.start q.stop curated⟩]

/-- The chunks of a range that are of a kind, or of one that is decided along with it. A kind that
is decided along with another is decided by the rule of the other. -/
def evaluate (kind : RarityKind) (q : QueryRange) : Except Error (List Entry) :=
  match kind with
  | .vintage => .ok [wholeIf .vintage q (q.height ≤ vintageHeight)]
  | .nakamoto => .ok [wholeIf .nakamoto q (nakamotoHeights.any fun h => q.height = h)]
  | .block9 | .block9_450 =>
    if q.height = 9 then .ok [⟨.block9, q.whole⟩, ⟨.block9_450, partBefore block9_450End q⟩]
    else .ok []
  | .block78 => .ok [wholeIf .block78 q (q.height = 78)]
  | .firstTransaction =>
    if q.height = 9 then .ok [⟨.firstTransaction, partBefore firstTransactionEnd q⟩] else .ok []
  | .pizza => evaluateCurated .pizza (curatedRanges .pizza) q
  | .palindrome | .perfectPalinception | .uniformPalinception | .paliblockPalindrome =>
    evaluatePalindromes q
  | .alpha => (alphas q.start q.stop coinValue).map fun found => [⟨.alpha, Chunk.singles found⟩]
  | .omega => (omegas q.start q.stop coinValue).map fun found => [⟨.omega, Chunk.singles found⟩]
  | .block286 => .ok [wholeIf .block286 q (q.height = 286)]
  | .block666 => .ok [wholeIf .block666 q (q.height = 666)]

/-- The rule of a kind, which must be one that is decided on its own. -/
def ownRule (kind : RarityKind) : Except Error (QueryRange → Except Error (List Entry)) :=
  if kind ∈ RarityKind.evaluated then .ok (evaluate kind) else .error (.notEvaluated kind.token)

/-- The chunks of a kind among entries. -/
def chunksOf (kind : RarityKind) (entries : List Entry) : List Chunk :=
  ((entries.find? (·.kind = kind)).map (·.chunks)).getD []

/-- The chunks of a range that are of one kind. -/
def evaluateKind (kind : RarityKind) (q : QueryRange) : Except Error (List Chunk) :=
  (evaluate kind q).map (chunksOf kind)

/-- A derived kind is decided by the rule of its parent. -/
theorem evaluate_parent (kind : RarityKind) (q : QueryRange) :
    evaluate kind.parent q = evaluate kind q := by
  cases kind <;> rfl

end RareSats
