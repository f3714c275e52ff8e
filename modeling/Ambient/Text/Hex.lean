namespace Ambient.Text

def lowerDigit (n : Nat) : Char := Char.ofNat (if n < 10 then 0x30 + n else 0x57 + n)

def upperDigit (n : Nat) : Char := Char.ofNat (if n < 10 then 0x30 + n else 0x37 + n)

/-- The value of the digit with this code, of either case. -/
def hexValue? (code : Nat) : Option Nat :=
  if 0x30 ≤ code ∧ code ≤ 0x39 then some (code - 0x30)
  else if 0x41 ≤ code ∧ code ≤ 0x46 then some (code - 0x37)
  else if 0x61 ≤ code ∧ code ≤ 0x66 then some (code - 0x57)
  else none

theorem hexValue?_lowerDigit (n : Fin 16) : hexValue? (lowerDigit n).toNat = some n.val := by
  revert n; decide

theorem hexValue?_upperDigit (n : Fin 16) : hexValue? (upperDigit n).toNat = some n.val := by
  revert n; decide

/-- The last `width` hexadecimal digits of `n`. -/
def fixedHex : (width : Nat) → (n : Nat) → List Char
  | 0, _ => []
  | width + 1, n => fixedHex width (n / 16) ++ [lowerDigit (n % 16)]

@[simp] theorem length_fixedHex (width n : Nat) : (fixedHex width n).length = width := by
  induction width generalizing n with
  | zero => rfl
  | succ width ih => simp [fixedHex, ih]

def hexNumeral (n : Nat) : List Char := fixedHex (Nat.log2 n / 4 + 1) n

end Ambient.Text
