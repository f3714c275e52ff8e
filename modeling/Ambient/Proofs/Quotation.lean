import Ambient.Json.Quoted
import Ambient.Proofs.Hexadecimal

namespace Ambient.Json

theorem hexUnit?_eq (a b c d : Char) : hexUnit? a b c d = Text.hexNumber? [a, b, c, d] := rfl

theorem fixedHex_four (n : Nat) : ∃ a b c d, Text.fixedHex 4 n = [a, b, c, d] := ⟨_, _, _, _, rfl⟩

theorem Piece.ofUnit_of_lt {unit : Nat} (h : unit < 0xD800) :
    Piece.ofUnit unit = .char (Char.ofNat unit) :=
  if_neg fun surrogate => absurd surrogate.1 (Nat.not_le.2 h)

def prepend (c : Char) (p : List Piece × List Char) : List Piece × List Char := (.char c :: p.1, p.2)

theorem pieces_fixedHex {c : Char} (small : c.toNat < 0x20) (cs : List Char) :
    pieces ('\\' :: 'u' :: Text.fixedHex 4 c.toNat ++ cs) = (pieces cs).map (prepend c) := by
  obtain ⟨h, i, j, k, digits⟩ := fixedHex_four c.toNat
  have number : hexUnit? h i j k = some c.toNat := by
    rw [hexUnit?_eq, ← digits, Text.hexNumber?_fixedHex, Nat.mod_eq_of_lt (by omega)]
  have piece : Piece.ofUnit c.toNat = .char c := by
    rw [Piece.ofUnit_of_lt (by omega), Char.ofNat_toNat]
  rw [digits]
  simp only [List.cons_append, List.nil_append, pieces, number, Option.bind_eq_bind,
    Option.bind_some, piece]
  cases pieces cs <;> rfl

theorem pieces_letter {letter c : Char} (h : unescape? letter = some c) (cs : List Char) :
    pieces ('\\' :: letter :: cs) = (pieces cs).map (prepend c) := by
  have short : letter ≠ 'u' := by
    rintro rfl
    cases h
  rw [pieces, h]
  · cases pieces cs <;> rfl
  · intro _ _ _ _ _ same
    exact absurd same short

theorem pieces_plain {c : Char} (quote : c ≠ '"') (backslash : c ≠ '\\') (large : ¬ c.toNat < 0x20)
    (cs : List Char) : pieces (c :: cs) = (pieces cs).map (prepend c) := by
  rw [pieces, if_neg large]
  · cases pieces cs <;> rfl
  · exact quote
  · rintro _ _ _ _ _ rfl -
    exact backslash rfl
  · rintro _ _ rfl -
    exact backslash rfl

theorem pieces_escapeChar (c : Char) (cs : List Char) :
    pieces (escapeChar c ++ cs) = (pieces cs).map (prepend c) := by
  unfold escapeChar
  split
  case h_8 quote backslash _ _ _ _ _ =>
    split
    next small => exact pieces_fixedHex small cs
    next large => exact pieces_plain quote backslash large cs
  all_goals exact pieces_letter rfl cs

/-- A text up to the quote that closes it. -/
theorem pieces_flatMap (cs rest : List Char) :
    pieces (cs.flatMap escapeChar ++ '"' :: rest) = some (cs.map .char, rest) := by
  induction cs with
  | nil => rfl
  | cons c cs ih => rw [List.flatMap_cons, List.append_assoc, pieces_escapeChar, ih]; rfl

theorem resolve_chars (cs : List Char) : resolve (cs.map .char) = some cs := by
  induction cs with
  | nil => rfl
  | cons c cs ih => rw [List.map_cons, resolve, ih]; rfl

theorem quote_eq (cs rest : List Char) :
    quote cs ++ rest = '"' :: (cs.flatMap escapeChar ++ '"' :: rest) := by
  simp [quote]

theorem readString_flatMap (s : String) (rest : List Char) :
    readString (s.toList.flatMap escapeChar ++ '"' :: rest) = some (some s, rest) := by
  rw [readString, pieces_flatMap]
  simp [resolve_chars]

end Ambient.Json
