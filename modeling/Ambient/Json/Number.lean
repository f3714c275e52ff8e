import Ambient.Decimal.Layout

namespace Ambient.Json

structure Whole where
  val : Int
  least : -0x8000000000000000 ≤ val
  most : val < 0x10000000000000000
deriving DecidableEq

def Whole.ofInt? (n : Int) : Option Whole :=
  if h : -0x8000000000000000 ≤ n ∧ n < 0x10000000000000000 then some ⟨n, h.1, h.2⟩ else none

inductive Number where
  | whole (n : Whole)
  | real (x : Binary64)
deriving DecidableEq

namespace Number

def same : Number → Number → Bool
  | .whole a, .whole b => a == b
  | .real a, .real b => a.sameNumber b
  | _, _ => false

def toNumeral : Number → Numeral
  | .whole n => Numeral.ofInt n.val
  | .real x => x.toNumeral

/-- The longest run of leading digits that 64 bits hold, and the count of digits after it. -/
def leading (n : Nat) : Nat × Nat :=
  if n < 0x10000000000000000 then (n, 0)
  else
    let (m, dropped) := leading (n / 10)
    (m, dropped + 1)
termination_by n
decreasing_by omega

def appendDigits (n : Nat) : List (Fin 10) → Nat × Nat
  | [] => (n, 0)
  | d :: ds =>
    if n * 10 + d.val < 0x10000000000000000 then
      let (m, count) := appendDigits (n * 10 + d.val) ds
      (m, count + 1)
    else (n, 0)

def topPower : Nat := 308

def power? (k : Nat) : Option Binary64 := Binary64.ofQuotient? false (Nat.pow 10 k) 1

/-- `n · 10 ^ exponent` in two roundings, one of `n` and one of its product with a power of ten or
its quotient by one. An exponent below those of the powers takes a quotient more. -/
def scale? (negative : Bool) (n : Nat) (exponent : Int) : Option Binary64 := do
  let x ← Binary64.ofQuotient? negative n 1
  if x.isZero then return x
  if topPower < exponent then none
  if 0 ≤ exponent then return ← x.times (← power? exponent.toNat)
  let places := (-exponent).toNat
  if places ≤ topPower then return ← x.dividedBy (← power? places)
  let y ← x.dividedBy (← power? topPower)
  if places ≤ 2 * topPower then y.dividedBy (← power? (places - topPower))
  else return Binary64.zero negative

def readReal? (n : Numeral) : Option Binary64 :=
  let (head, dropped) := leading n.whole
  let (digits, places) := appendDigits head n.fraction
  scale? n.negative digits (dropped - places + n.exponent.getD 0)

/-- Integers are those written without point and exponent that fit; `-0` is not among them. -/
def ofNumeral? (n : Numeral) : Option Number :=
  match if n.negative && n.whole == 0 then none else n.toInt?.bind Whole.ofInt? with
  | some w => some (.whole w)
  | none => (readReal? n).map .real

end Number
end Ambient.Json
