import Ambient.Decimal.Numeral
import Ambient.Decimal.Shortest

namespace Ambient.Binary64

structure Layout where
  least : Int
  most : Int

def Layout.plain : Layout := ⟨-5, 15⟩

def positional (negative : Bool) (x : Scientific) : Numeral :=
  if 0 ≤ x.exponent then ⟨negative, x.digits * Nat.pow 10 x.exponent.toNat, [⟨0, by decide⟩], none⟩
  else
    let places := (-x.exponent).toNat
    ⟨negative, x.digits / Nat.pow 10 places, Numeral.fixedDigits places x.digits, none⟩

/-- One digit before the point, and no point where nothing follows it. -/
def scientific (negative : Bool) (x : Scientific) : Numeral :=
  let places := Numeral.digitCount x.digits - 1
  ⟨negative, x.digits / Nat.pow 10 places, Numeral.fixedDigits places x.digits,
    some (x.exponent + places)⟩

def Layout.write (layout : Layout) (negative : Bool) (x : Scientific) : Numeral :=
  let exponent := x.exponent + Numeral.digitCount x.digits - 1
  if layout.least ≤ exponent ∧ exponent ≤ layout.most then positional negative x
  else scientific negative x

def toNumeral (x : Binary64) : Numeral :=
  Layout.plain.write x.negative (if x.isZero then ⟨0, 0⟩ else shortest x.rank)

end Ambient.Binary64
