import Ambient.Text.Hex
import Ambient.Text.Utf8

namespace Ambient.Text.Percent

def isUnreserved (b : UInt8) : Bool :=
  let n := b.toNat
  (0x30 ≤ n && n ≤ 0x39) || (0x41 ≤ n && n ≤ 0x5A) || (0x61 ≤ n && n ≤ 0x7A) ||
    n == 0x2D || n == 0x2E || n == 0x5F || n == 0x7E

def encodeByte (b : UInt8) : List Char :=
  if isUnreserved b then [Char.ofNat b.toNat]
  else ['%', upperDigit (b.toNat / 16), upperDigit (b.toNat % 16)]

def encode (cs : List Char) : List Char := (Utf8.encode cs).flatMap encodeByte

/-- The byte that three bytes escape, if the first is `%` and the others are digits. -/
def escaped? (b h l : UInt8) : Option UInt8 :=
  if b = 0x25 then
    match hexValue? h.toNat, hexValue? l.toNat with
    | some x, some y => some (UInt8.ofNat (x * 16 + y))
    | _, _ => none
  else none

def unescape : List UInt8 → List UInt8
  | b :: h :: l :: rest =>
    match escaped? b h l with
    | some v => v :: unescape rest
    | none => b :: unescape (h :: l :: rest)
  | bs => bs

def decode (cs : List Char) : List Char := Utf8.decode (unescape (Utf8.encode cs))

theorem unescape_of_ne {b : UInt8} (h : b ≠ 0x25) (bs : List UInt8) :
    unescape (b :: bs) = b :: unescape bs := by
  match bs with
  | [] => rfl
  | [_] => rfl
  | _ :: _ :: _ => simp [unescape, escaped?, h]

theorem toNat_lt_of_isUnreserved {b : UInt8} (h : isUnreserved b = true) : b.toNat < 0x80 := by
  simp only [isUnreserved, Bool.or_eq_true, Bool.and_eq_true, decide_eq_true_eq, beq_iff_eq] at h
  omega

theorem toNat_char (n : Fin 0x80) : (Char.ofNat n).toNat = n.val := by
  revert n; decide

theorem upperDigit_lt (n : Fin 16) : (upperDigit n).toNat < 0x80 := by
  revert n; decide

theorem hexValue?_byte (n : Fin 16) :
    hexValue? (UInt8.ofNat (upperDigit n).toNat).toNat = some n.val := by
  rw [Utf8.toNat_ofNat (Nat.lt_trans (upperDigit_lt n) (by decide)), hexValue?_upperDigit]

theorem unescape_encodeByte (b : UInt8) (bs : List UInt8) :
    unescape (Utf8.encode (encodeByte b) ++ bs) = b :: unescape bs := by
  have small : b.toNat < 256 := b.toNat_lt
  unfold encodeByte
  split
  next h =>
    have ascii : b.toNat < 0x80 := toNat_lt_of_isUnreserved h
    have code : (Char.ofNat b.toNat).toNat = b.toNat := toNat_char ⟨b.toNat, ascii⟩
    have plain : b ≠ 0x25 := by
      rintro rfl
      exact absurd h (by decide)
    rw [Utf8.encode_cons_ascii (by omega), code, UInt8.ofNat_toNat]
    exact unescape_of_ne plain bs
  next h =>
    have high := hexValue?_byte ⟨b.toNat / 16, by omega⟩
    have low := hexValue?_byte ⟨b.toNat % 16, by omega⟩
    rw [Utf8.encode_cons_ascii (by decide),
      Utf8.encode_cons_ascii (upperDigit_lt ⟨b.toNat / 16, by omega⟩),
      Utf8.encode_cons_ascii (upperDigit_lt ⟨b.toNat % 16, by omega⟩)]
    simp only [List.cons_append, unescape, escaped?]
    rw [if_pos (by decide), high, low]
    simp only [show b.toNat / 16 * 16 + b.toNat % 16 = b.toNat by omega, UInt8.ofNat_toNat]
    rfl

theorem decode_encode (cs : List Char) : decode (encode cs) = cs := by
  have bytes (bs : List UInt8) : unescape (Utf8.encode (bs.flatMap encodeByte)) = bs := by
    induction bs with
    | nil => rfl
    | cons b bs ih => rw [List.flatMap_cons, Utf8.encode_append, unescape_encodeByte, ih]
  rw [decode, encode, bytes, Utf8.decode_encode]

end Ambient.Text.Percent
