import Ambient.Decimal.Binary64

namespace Ambient.Binary64

structure Scientific where
  digits : Nat
  exponent : Int
deriving DecidableEq

/-- How many half units `digits · 10 ^ exponent` has, over a common denominator: the first number
belongs to one digit, the second to one half unit. -/
def grid (exponent : Int) : Nat × Nat :=
  if 0 ≤ exponent then (Nat.pow 10 exponent.toNat * 2 * unitsPerOne, 1)
  else (2 * unitsPerOne, Nat.pow 10 (-exponent).toNat)

/-- Whether `digits` on a grid rounds to `rank`: it lies between the midpoints to the neighbouring
ranks, which themselves round to the even side. -/
def roundsTo (rank : Nat) (step half digits : Nat) : Bool :=
  let low := (units (rank - 1) + units rank) * half
  let high := (units rank + units (rank + 1)) * half
  let x := digits * step
  if rank % 2 = 0 then low ≤ x && x ≤ high else low < x && x < high

def pick? (rank : Nat) (exponent : Int) : Option Scientific :=
  let (step, half) := grid exponent
  let x := 2 * units rank * half
  let below := x / step
  let above := below + 1
  let lowGap := x - below * step
  let highGap := above * step - x
  let takeBelow := lowGap < highGap || (lowGap == highGap && below % 2 == 0)
  match roundsTo rank step half below, roundsTo rank step half above with
  | true, true => some ⟨if takeBelow then below else above, exponent⟩
  | true, false => some ⟨below, exponent⟩
  | false, true => some ⟨above, exponent⟩
  | false, false => none

def refine (rank : Nat) : (count : Nat) → (exponent : Int) → Scientific
  | 0, exponent => (pick? rank exponent).getD ⟨0, exponent⟩
  | count + 1, exponent => (pick? rank exponent).getD (refine rank count (exponent - 1))

def ceiling (rank : Nat) : Int :=
  ((Nat.log2 (units rank) : Int) - 1073) * 30103 / 100000 + 2

/-- Seventeen digits always identify a magnitude, so twenty-two grids from the ceiling are enough. -/
def shortest (rank : Nat) : Scientific := refine rank 22 (ceiling rank)

end Ambient.Binary64
