namespace Ambient.Text.Utf8

def encode (cs : List Char) : List UInt8 := cs.flatMap String.utf8EncodeChar

def replacement : Char := '\uFFFD'

/-- A sequence that has begun: the bytes it still needs, the bounds of the next of them, and the
payload so far. -/
structure Pending where
  owed : Nat
  low : Nat
  high : Nat
  payload : Nat

/-- A byte where no sequence has begun. The bounds of a second byte leave out overlong forms,
surrogates and what lies above U+10FFFF. -/
def begin (b : UInt8) : List Char × Option Pending :=
  let n := b.toNat
  if n < 0x80 then ([Char.ofNat n], none)
  else if n < 0xC2 then ([replacement], none)
  else if n < 0xE0 then ([], some ⟨1, 0x80, 0xBF, n - 0xC0⟩)
  else if n = 0xE0 then ([], some ⟨2, 0xA0, 0xBF, 0⟩)
  else if n = 0xED then ([], some ⟨2, 0x80, 0x9F, 0xD⟩)
  else if n < 0xF0 then ([], some ⟨2, 0x80, 0xBF, n - 0xE0⟩)
  else if n = 0xF0 then ([], some ⟨3, 0x90, 0xBF, 0⟩)
  else if n < 0xF4 then ([], some ⟨3, 0x80, 0xBF, n - 0xF0⟩)
  else if n = 0xF4 then ([], some ⟨3, 0x80, 0x8F, 4⟩)
  else ([replacement], none)

def Pending.next (p : Pending) (b : UInt8) : List Char × Option Pending :=
  if p.low ≤ b.toNat ∧ b.toNat ≤ p.high then
    let payload := p.payload * 64 + b.toNat % 64
    if p.owed ≤ 1 then ([Char.ofNat payload], none)
    else ([], some ⟨p.owed - 1, 0x80, 0xBF, payload⟩)
  else
    let (out, q) := begin b
    (replacement :: out, q)

def decodeFrom : Option Pending → List UInt8 → List Char
  | none, [] => []
  | some _, [] => [replacement]
  | none, b :: bs => (begin b).1 ++ decodeFrom (begin b).2 bs
  | some p, b :: bs => (p.next b).1 ++ decodeFrom (p.next b).2 bs

def decode (bs : List UInt8) : List Char := decodeFrom none bs

theorem encode_append (a b : List Char) : encode (a ++ b) = encode a ++ encode b :=
  List.flatMap_append

theorem encode_cons_ascii {c : Char} (h : c.toNat < 0x80) (cs : List Char) :
    encode (c :: cs) = UInt8.ofNat c.toNat :: encode cs := by
  simp [encode, String.utf8EncodeChar, Nat.le_of_lt_succ h]

theorem toNat_ofNat {n : Nat} (h : n < 256) : (UInt8.ofNat n).toNat = n := by
  rw [UInt8.toNat_ofNat', Nat.mod_eq_of_lt h]

theorem begin_one {n : Nat} (h : n < 0x80) : begin (UInt8.ofNat n) = ([Char.ofNat n], none) := by
  rw [begin, toNat_ofNat (by omega)]
  exact if_pos h

theorem begin_two {n : Nat} (h : 0xC2 ≤ n ∧ n < 0xE0) :
    begin (UInt8.ofNat n) = ([], some ⟨1, 0x80, 0xBF, n - 0xC0⟩) := by
  rw [begin, toNat_ofNat (by omega)]
  grind

theorem begin_three {n : Nat} (h : 0xE0 ≤ n ∧ n < 0xF0) :
    begin (UInt8.ofNat n) = ([], some ⟨2, if n = 0xE0 then 0xA0 else 0x80,
      if n = 0xED then 0x9F else 0xBF, n - 0xE0⟩) := by
  rw [begin, toNat_ofNat (by omega)]
  grind

theorem begin_four {n : Nat} (h : 0xF0 ≤ n ∧ n < 0xF5) :
    begin (UInt8.ofNat n) = ([], some ⟨3, if n = 0xF0 then 0x90 else 0x80,
      if n = 0xF4 then 0x8F else 0xBF, n - 0xF0⟩) := by
  rw [begin, toNat_ofNat (by omega)]
  grind

theorem decodeFrom_begin {b : UInt8} {p : Pending} (h : begin b = ([], some p)) (bs : List UInt8) :
    decodeFrom none (b :: bs) = decodeFrom (some p) bs := by
  simp [decodeFrom, h]

theorem decodeFrom_inner {owed low high payload n : Nat} (h : low ≤ n ∧ n ≤ high) (hn : n < 256)
    (bs : List UInt8) :
    decodeFrom (some ⟨owed + 2, low, high, payload⟩) (UInt8.ofNat n :: bs) =
      decodeFrom (some ⟨owed + 1, 0x80, 0xBF, payload * 64 + n % 64⟩) bs := by
  simp [decodeFrom, Pending.next, Nat.mod_eq_of_lt hn, h]

theorem decodeFrom_last {low high payload n : Nat} (h : low ≤ n ∧ n ≤ high) (hn : n < 256)
    (bs : List UInt8) :
    decodeFrom (some ⟨1, low, high, payload⟩) (UInt8.ofNat n :: bs) =
      Char.ofNat (payload * 64 + n % 64) :: decodeFrom none bs := by
  simp [decodeFrom, Pending.next, Nat.mod_eq_of_lt hn, h]

theorem decodeFrom_encodeChar (c : Char) (bs : List UInt8) :
    decodeFrom none (String.utf8EncodeChar c ++ bs) = c :: decodeFrom none bs := by
  have valid : c.toNat < 0xD800 ∨ (0xDFFF < c.toNat ∧ c.toNat < 0x110000) := c.valid
  have whole {n : Nat} (h : n = c.toNat) : Char.ofNat n = c := by rw [h, Char.ofNat_toNat]
  simp only [String.utf8EncodeChar, show c.val.toNat = c.toNat from rfl]
  split
  · rw [List.singleton_append, decodeFrom, begin_one (by omega), whole rfl]
    rfl
  split
  · rw [List.cons_append, List.singleton_append, decodeFrom_begin (begin_two (by omega)),
      decodeFrom_last (by omega) (by omega), whole (by omega)]
  split
  · rw [List.cons_append, List.cons_append, List.singleton_append,
      decodeFrom_begin (begin_three (by omega)),
      decodeFrom_inner (by split <;> split <;> omega) (by omega),
      decodeFrom_last (by omega) (by omega), whole (by omega)]
  · rw [List.cons_append, List.cons_append, List.cons_append, List.singleton_append,
      decodeFrom_begin (begin_four (by omega)),
      decodeFrom_inner (by split <;> split <;> omega) (by omega),
      decodeFrom_inner (by omega) (by omega),
      decodeFrom_last (by omega) (by omega), whole (by omega)]

theorem decode_encode (cs : List Char) : decode (encode cs) = cs := by
  induction cs with
  | nil => rfl
  | cons c cs ih =>
    rw [decode, encode, List.flatMap_cons, decodeFrom_encodeChar]
    exact congrArg _ ih

end Ambient.Text.Utf8
