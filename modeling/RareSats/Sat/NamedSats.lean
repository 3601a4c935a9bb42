/-
# Named sats of an output

An output holds ranges of sats, and its sats are numbered in the order of the
ranges. Only the first sat of a block has a named rarity above common, so in
ranges of one block each it is enough to look at the first sats.

Key definitions: `NamedSat`, `namedSatsFrom`, `namedSats`, `namedSatsWritten`,
`Chunk.sats`, `everyNamedSat`.
Key theorem: `namedSatsWrittenFrom_bounds`.
-/
import RareSats.Chunk
import RareSats.Sat.NamedRarity

namespace RareSats

/-- A sat above common, with its number among the sats of the output. -/
structure NamedSat where
  sat : Int
  offset : Int
  rarity : NamedRarity
deriving DecidableEq, Repr

/-- The first sats above common of ranges whose first sat has the number `offset`. -/
def namedSatsFrom (offset : Int) : List Chunk → Except Error (List NamedSat)
  | [] => .ok []
  | c :: rest => do
    let first ← Sat.of c.lo
    let others ← namedSatsFrom (offset + (c.hi - c.lo)) rest
    if first.rarity > .common then return ⟨c.lo, offset, first.rarity⟩ :: others
    else return others

/-- The named sats among the first sats of the ranges. -/
def namedSats (ranges : List Chunk) : Except Error (List NamedSat) :=
  namedSatsFrom 0 ranges

/-- The first sats above common of written ranges, each one read when its turn comes. -/
def namedSatsWrittenFrom (offset : Int) : List (List Int) → Except Error (List NamedSat)
  | [] => .ok []
  | bounds :: rest => do
    let c ← Chunk.ofBounds bounds
    let found ← namedSatsFrom offset [c]
    let others ← namedSatsWrittenFrom (offset + (c.hi - c.lo)) rest
    return found ++ others

/-- The named sats among the first sats of written ranges. -/
def namedSatsWritten (written : List (List Int)) : Except Error (List NamedSat) :=
  namedSatsWrittenFrom 0 written

/-- Ranges have the named sats of their written form. -/
theorem namedSatsWrittenFrom_bounds (offset : Int) (ranges : List Chunk) :
    namedSatsWrittenFrom offset (ranges.map Chunk.bounds) = namedSatsFrom offset ranges := by
  induction ranges generalizing offset with
  | nil => rfl
  | cons c rest ih =>
    simp only [List.map_cons, namedSatsWrittenFrom, namedSatsFrom, Chunk.ofBounds_bounds, ih]
    cases hfirst : Sat.of c.lo with
    | error e => simp [hfirst, bind, Except.bind]
    | ok first =>
      cases hrest : namedSatsFrom (offset + (c.hi - c.lo)) rest with
      | error e =>
        by_cases h : first.rarity > .common <;> simp_all [bind, Except.bind, pure, Except.pure]
      | ok others =>
        by_cases h : first.rarity > .common <;> simp_all [bind, Except.bind, pure, Except.pure]

/-- The sats of a chunk in ascending order. -/
def Chunk.sats (c : Chunk) : List Int :=
  (List.range (c.hi - c.lo).toNat).map fun (i : Nat) => c.lo + i

/-- The sat `n` as a named sat with the number `i`, if it is issued and above common. -/
def namedSat? (n : Int) (i : Nat) : Option NamedSat :=
  match Sat.of n with
  | .ok s => if s.rarity > .common then some ⟨n, i, s.rarity⟩ else none
  | .error _ => none

/-- The named sats among all sats of the ranges. -/
def everyNamedSat (ranges : List Chunk) : List NamedSat :=
  (ranges.flatMap Chunk.sats).zipIdx.filterMap fun p => namedSat? p.1 p.2

end RareSats
