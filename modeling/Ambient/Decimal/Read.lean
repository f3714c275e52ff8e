import Ambient.Decimal.Binary64
import Ambient.Decimal.Numeral

namespace Ambient.Binary64

def readUnsigned? (negative : Bool) (cs : List Char) : Option Binary64 := do
  let (whole, cs) := Numeral.takeDigits cs
  let (fraction, cs) := match cs with
    | '.' :: cs => Numeral.takeDigits cs
    | cs => ([], cs)
  let digits := whole ++ fraction
  if digits.isEmpty then none
  let (exponent, cs) ← Numeral.readExponent cs
  if cs.isEmpty then
    ofDecimal? negative (Numeral.ofDigits digits) (exponent.getD 0 - fraction.length)
  else none

/-- Finite numbers only: the names of infinities and of what is no number are not read. -/
def ofText? (s : String) : Option Binary64 :=
  match s.toList with
  | '-' :: cs => readUnsigned? true cs
  | '+' :: cs => readUnsigned? false cs
  | cs => readUnsigned? false cs

end Ambient.Binary64
