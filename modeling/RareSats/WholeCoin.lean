/-
# First and last sats of whole coins

The sats are counted out in whole coins of `unit` sats. An *alpha* is the first
sat of a whole coin and an *omega* the last one. The alphas of a range are listed
upwards and the omegas downwards.

Key definitions: `alphas`, `omegas`.
-/
import RareSats.Error

namespace RareSats

/-- The number of steps of width `unit`, from zero on, that stay before `length`. -/
def stepsBefore (length unit : Int) : Nat :=
  (-(-length).fdiv unit).toNat

/-- The first sats of whole coins from `start` on and before `stop`, in ascending order. A walk by
a negative unit ends only if it starts past `stop`. -/
def alphas (start stop unit : Int) : Except Error (List Int) :=
  if unit = 0 then .error .divisionByZero
  else
    let first := -(-start).fdiv unit * unit
    if stop ≤ first then .ok []
    else if unit < 0 then .error .endlessWalk
    else .ok ((List.range (stepsBefore (stop - first) unit)).map fun (i : Nat) => first + i * unit)

/-- The last sats of whole coins from `start` on and before `stop`, in descending order. A walk by
a negative unit ends only if it starts before `start`. -/
def omegas (start stop unit : Int) : Except Error (List Int) :=
  if unit = 0 then .error .divisionByZero
  else
    let last := stop.fdiv unit * unit - 1
    if last < start then .ok []
    else if unit < 0 then .error .endlessWalk
    else .ok ((List.range (stepsBefore (last + 1 - start) unit)).map fun (i : Nat) => last - i * unit)

end RareSats
