import Ambient.Text.Blank
import Ambient.Text.Percent

namespace Ambient.Text

namespace Utf8

def Pending.Continues (p : Pending) : Prop := 0x80 ≤ p.low ∧ p.high < 0xC0

variable {b : UInt8} {p q : Pending}

theorem continues_begin (h : (begin b).2 = some p) : p.Continues := by
  rw [begin] at h
  grind [Pending.Continues]

theorem Pending.continues_next (h : (p.next b).2 = some q) : q.Continues := by
  rw [Pending.next] at h
  split at h
  next =>
    split at h
    · cases h
    · cases h
      constructor <;> simp
  next => exact continues_begin h

theorem decodeFrom_append_cons (lead : b.toNat < 0x80 ∨ 0xC0 ≤ b.toNat) {state : Option Pending}
    (sound : ∀ p, state = some p → p.Continues) (xs ys : List UInt8) :
    decodeFrom state (xs ++ b :: ys) = decodeFrom state xs ++ decodeFrom none (b :: ys) := by
  induction xs generalizing state with
  | nil =>
    cases state with
    | none => rfl
    | some p =>
      have bounds : 0x80 ≤ p.low ∧ p.high < 0xC0 := sound p rfl
      have out : ¬ (p.low ≤ b.toNat ∧ b.toNat ≤ p.high) := by omega
      simp only [List.nil_append, decodeFrom, Pending.next, if_neg out]
      rfl
  | cons x xs ih =>
    cases state with
    | none =>
      have later := ih fun p => continues_begin (b := x)
      exact (congrArg ((begin x).1 ++ ·) later).trans (List.append_assoc _ _ _).symm
    | some p =>
      have later := ih fun q => Pending.continues_next (p := p) (b := x)
      exact (congrArg ((p.next x).1 ++ ·) later).trans (List.append_assoc _ _ _).symm

theorem exists_encodeChar_eq_cons (c : Char) :
    ∃ b bs, String.utf8EncodeChar c = b :: bs ∧ (b.toNat < 0x80 ∨ 0xC0 ≤ b.toNat) := by
  have valid : c.toNat < 0xD800 ∨ (0xDFFF < c.toNat ∧ c.toNat < 0x110000) := c.valid
  simp only [String.utf8EncodeChar, show c.val.toNat = c.toNat from rfl]
  split
  · exact ⟨_, _, rfl, .inl (by rw [toNat_ofNat (by omega)]; omega)⟩
  split
  · exact ⟨_, _, rfl, .inr (by rw [toNat_ofNat (by omega)]; omega)⟩
  split
  · exact ⟨_, _, rfl, .inr (by rw [toNat_ofNat (by omega)]; omega)⟩
  · exact ⟨_, _, rfl, .inr (by rw [toNat_ofNat (by omega)]; omega)⟩

/-- A character is read from its bytes whatever stands around them. -/
theorem decode_append_encodeChar (c : Char) (xs ys : List UInt8) :
    decode (xs ++ (String.utf8EncodeChar c ++ ys)) = decode xs ++ c :: decode ys := by
  obtain ⟨b, bs, bytes, lead⟩ := exists_encodeChar_eq_cons c
  have fresh : ∀ p, (none : Option Pending) = some p → p.Continues := nofun
  have whole := decodeFrom_encodeChar c ys
  rw [bytes] at whole ⊢
  rw [decode, List.cons_append, decodeFrom_append_cons lead fresh]
  exact congrArg (decode xs ++ ·) whole

end Utf8

namespace Percent

/-- A text that says bytes by escapes, with digits of either case. -/
inductive Escapes : List UInt8 → List Char → Prop
  | nil : Escapes [] []
  | cons {high low : Char} {x y : Nat} {bs : List UInt8} {cs : List Char}
      (first : hexValue? high.toNat = some x) (second : hexValue? low.toNat = some y)
      (rest : Escapes bs cs) : Escapes (UInt8.ofNat (x * 16 + y) :: bs) ('%' :: high :: low :: cs)

theorem lt_of_hexValue? {code x : Nat} (h : hexValue? code = some x) : 0x30 ≤ code ∧ code < 0x67 := by
  rw [hexValue?] at h
  grind

theorem not_blank_of_hexValue? {digit : Char} {x : Nat} (h : hexValue? digit.toNat = some x) :
    isBlank digit = false := by
  have bounds := lt_of_hexValue? h
  apply not_blank_of_visible <;> omega

theorem unescape_append_percent (xs ys : List UInt8) :
    unescape (xs ++ 0x25 :: ys) = unescape xs ++ unescape (0x25 :: ys) := by
  have sign : hexValue? (0x25 : UInt8).toNat = none := by decide
  have second (b c : UInt8) : escaped? b 0x25 c = none := by
    rw [escaped?, sign, ite_self]
  have third (b c : UInt8) : escaped? b c 0x25 = none := by
    rw [escaped?, sign]
    cases hexValue? c.toNat <;> simp
  have one (b : UInt8) : unescape (b :: 0x25 :: ys) = b :: unescape (0x25 :: ys) := by
    cases ys with
    | nil => rfl
    | cons y ys => rw [unescape, second]
  fun_induction unescape xs with
  | case1 b h l rest v found ih =>
    simp only [List.cons_append, unescape, found]
    exact congrArg (v :: ·) ih
  | case2 b h l rest broken ih =>
    simp only [List.cons_append, unescape, broken]
    exact congrArg (b :: ·) ih
  | case3 bs short =>
    rcases bs with _ | ⟨b, _ | ⟨c, _ | ⟨d, rest⟩⟩⟩
    · rfl
    · exact one b
    · simp only [List.cons_append, List.nil_append]
      rw [unescape, third]
      exact congrArg (b :: ·) (one c)
    · exact (short b c d rest rfl).elim

theorem unescape_escapes {bs : List UInt8} {cs : List Char} (h : Escapes bs cs) (ys : List UInt8) :
    unescape (Utf8.encode cs ++ ys) = bs ++ unescape ys := by
  induction h with
  | nil => rfl
  | @cons high low x y bs cs first second rest ih =>
    have highAscii : high.toNat < 0x80 := by have := lt_of_hexValue? first; omega
    have lowAscii : low.toNat < 0x80 := by have := lt_of_hexValue? second; omega
    have found : escaped? (UInt8.ofNat '%'.toNat) (UInt8.ofNat high.toNat)
        (UInt8.ofNat low.toNat) = some (UInt8.ofNat (x * 16 + y)) := by
      rw [escaped?, if_pos (by decide), Utf8.toNat_ofNat (by omega), first,
        Utf8.toNat_ofNat (by omega), second]
    rw [Utf8.encode_cons_ascii (by decide), Utf8.encode_cons_ascii highAscii,
      Utf8.encode_cons_ascii lowAscii, List.cons_append, List.cons_append, List.cons_append,
      unescape, found]
    exact congrArg (UInt8.ofNat (x * 16 + y) :: ·) ih

theorem Escapes.exists_first {bs : List UInt8} {cs : List Char} (h : Escapes bs cs)
    (some_byte : bs ≠ []) : ∃ rest, cs = '%' :: rest := by
  cases h with
  | nil => exact (some_byte rfl).elim
  | cons => exact ⟨_, rfl⟩

theorem Escapes.exists_last {bs : List UInt8} {cs : List Char} (h : Escapes bs cs)
    (some_byte : bs ≠ []) : ∃ init last, cs = init ++ [last] ∧ isBlank last = false := by
  induction h with
  | nil => exact (some_byte rfl).elim
  | @cons high low x y bs cs first second rest ih =>
    cases rest with
    | nil => exact ⟨['%', high], low, rfl, not_blank_of_hexValue? second⟩
    | cons =>
      obtain ⟨init, last, later, seen⟩ := ih (List.cons_ne_nil _ _)
      exact ⟨'%' :: high :: low :: init, last, later ▸ rfl, seen⟩

/-- Of text around escapes only the outer blanks are stripped. -/
theorem Escapes.trim_append {bs : List UInt8} {e : List Char} (h : Escapes bs e)
    (some_byte : bs ≠ []) (l r : List Char) :
    trim (l ++ e ++ r) = trimLeft l ++ e ++ trimRight r := by
  obtain ⟨rest, first⟩ := h.exists_first some_byte
  obtain ⟨init, last, whole, seen⟩ := h.exists_last some_byte
  have left : trimLeft (l ++ e ++ r) = trimLeft l ++ e ++ r := by
    rw [first, List.append_assoc, List.append_assoc]
    exact trimLeft_append_cons (by decide) l (rest ++ r)
  calc trim (l ++ e ++ r)
    _ = trimRight (trimLeft l ++ e ++ r) := congrArg trimRight left
    _ = trimRight (trimLeft l ++ init ++ last :: r) := by simp [whole]
    _ = trimLeft l ++ init ++ last :: trimRight r := trimRight_append_cons seen _ r
    _ = trimLeft l ++ e ++ trimRight r := by simp [whole]

theorem decode_append_escaped {c : Char} {e : List Char}
    (h : Escapes (String.utf8EncodeChar c) e) (l r : List Char) :
    decode (l ++ e ++ r) = decode l ++ c :: decode r := by
  obtain ⟨b, bs, bytes, -⟩ := Utf8.exists_encodeChar_eq_cons c
  obtain ⟨rest, first⟩ := h.exists_first (bytes ▸ List.cons_ne_nil b bs)
  have apart : unescape (Utf8.encode l ++ (Utf8.encode e ++ Utf8.encode r)) =
      unescape (Utf8.encode l) ++ unescape (Utf8.encode e ++ Utf8.encode r) := by
    rw [first, Utf8.encode_cons_ascii (by decide), List.cons_append]
    exact unescape_append_percent _ _
  rw [decode, Utf8.encode_append, Utf8.encode_append, List.append_assoc, apart,
    unescape_escapes h]
  exact Utf8.decode_append_encodeChar c _ _

end Percent
end Ambient.Text
