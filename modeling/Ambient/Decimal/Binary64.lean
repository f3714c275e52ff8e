namespace Ambient

/-- Magnitudes come in runs of 2⁵², and within a run they are equally spaced. -/
def Binary64.run : Nat := 0x10000000000000

def Binary64.finiteRanks : Nat := 2047 * run

structure Binary64 where
  negative : Bool
  rank : Nat
  rank_lt : rank < Binary64.finiteRanks
deriving DecidableEq

namespace Binary64

/-- The magnitude of a rank, counted in the least positive magnitude 2⁻¹⁰⁷⁴. The spacing doubles
with every run from the third on. -/
def units (rank : Nat) : Nat :=
  if rank < run then rank else (run + rank % run) * Nat.pow 2 (rank / run - 1)

def unitsPerOne : Nat := Nat.pow 2 1074

/-- The integer nearest to a quotient; a tie goes to the even neighbour. -/
def roundQuotient (a b : Nat) : Nat :=
  let q := a / b
  let r := a % b
  if 2 * r < b ∨ (2 * r = b ∧ q % 2 = 0) then q else q + 1

def nearestRank (a b : Nat) : Nat :=
  let q := a / b
  let spacing := if q < 2 * run then 0 else Nat.log2 q - 52
  spacing * run + roundQuotient a (b * Nat.pow 2 spacing)

def ofRank? (negative : Bool) (rank : Nat) : Option Binary64 :=
  if h : rank < finiteRanks then some ⟨negative, rank, h⟩ else none

def ofQuotient? (negative : Bool) (a b : Nat) : Option Binary64 :=
  ofRank? negative (nearestRank (a * unitsPerOne) b)

def zero (negative : Bool) : Binary64 := ⟨negative, 0, by decide⟩

def magnitude (x : Binary64) : Nat := units x.rank

def isZero (x : Binary64) : Bool := x.rank == 0

def sameNumber (x y : Binary64) : Bool :=
  x.rank == y.rank && (x.negative == y.negative || x.isZero)

def times (x y : Binary64) : Option Binary64 :=
  ofRank? x.negative (nearestRank (x.magnitude * y.magnitude) unitsPerOne)

def dividedBy (x y : Binary64) : Option Binary64 :=
  ofRank? x.negative (nearestRank (x.magnitude * unitsPerOne) y.magnitude)

/-- The number nearest to `digits · 10 ^ exponent`. An exponent far outside the range of finite
numbers is settled without computing its power. -/
def ofDecimal? (negative : Bool) (digits : Nat) (exponent : Int) : Option Binary64 :=
  let top := exponent + (Nat.toDigits 10 digits).length
  if digits = 0 ∨ top < -400 then some (zero negative)
  else if 400 < top then none
  else if 0 ≤ exponent then ofQuotient? negative (digits * Nat.pow 10 exponent.toNat) 1
  else ofQuotient? negative digits (Nat.pow 10 (-exponent).toNat)

end Binary64
end Ambient
