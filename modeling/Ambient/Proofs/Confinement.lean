import Mathlib.Data.List.Forall2
import Ambient.Proofs.RoundTrip
import Ambient.Text.Letter

namespace Ambient

namespace Text

variable {c sep : Char} {pieces : List (List Char)}

theorem mem_join (h : c ∈ join sep pieces) : c = sep ∨ ∃ piece ∈ pieces, c ∈ piece := by
  cases pieces with
  | nil => cases h
  | cons piece pieces =>
    rw [join_cons, List.mem_append, List.mem_flatMap] at h
    rcases h with first | ⟨other, ho, later⟩
    · exact .inr ⟨piece, List.mem_cons_self, first⟩
    · exact (List.mem_cons.1 later).imp_right fun inside =>
        ⟨other, List.mem_cons_of_mem piece ho, inside⟩

theorem count_flatMap_of_one {f : List Char → List Char}
    (one : ∀ piece ∈ pieces, (f piece).count c = 1) :
    (pieces.flatMap f).count c = pieces.length := by
  induction pieces with
  | nil => rfl
  | cons piece pieces ih =>
    rw [List.forall_mem_cons] at one
    rw [List.flatMap_cons, List.count_append, one.1, ih one.2, List.length_cons, Nat.add_comm]

theorem count_join_of_ne (differ : c ≠ sep) (one : ∀ piece ∈ pieces, piece.count c = 1) :
    (join sep pieces).count c = pieces.length := by
  cases pieces with
  | nil => rfl
  | cons piece pieces =>
    rw [List.forall_mem_cons] at one
    have later : ∀ other ∈ pieces, (sep :: other).count c = 1 := by
      intro other ho
      rw [List.count_cons_of_ne (Ne.symm differ), one.2 other ho]
    rw [join_cons, List.count_append, one.1, count_flatMap_of_one later, List.length_cons,
      Nat.add_comm]

theorem count_sep_join (some_piece : pieces ≠ []) (h : ∀ piece ∈ pieces, sep ∉ piece) :
    (join sep pieces).count sep + 1 = pieces.length := by
  cases pieces with
  | nil => exact absurd rfl some_piece
  | cons piece pieces =>
    rw [List.forall_mem_cons] at h
    have later : ∀ other ∈ pieces, (sep :: other).count sep = 1 := by
      intro other ho
      rw [List.count_cons_self, List.count_eq_zero.2 (h.2 other ho)]
    rw [join_cons, List.count_append, List.count_eq_zero.2 h.1, count_flatMap_of_one later,
      List.length_cons, Nat.zero_add]

theorem suffix_append_cases {rest a b : List Char} (h : c :: rest <:+ a ++ b) :
    c :: rest <:+ b ∨ ∃ inner, c :: inner <:+ a ∧ rest = inner ++ b := by
  induction a with
  | nil => exact .inl h
  | cons x a ih =>
    rcases List.suffix_cons_iff.1 h with whole | later
    · obtain ⟨rfl, rfl⟩ := List.cons.inj whole
      exact .inr ⟨a, List.suffix_rfl, rfl⟩
    · rcases ih later with second | ⟨inner, first, rfl⟩
      · exact .inl second
      · exact .inr ⟨inner, List.suffix_cons_iff.2 (.inr first), rfl⟩

end Text

namespace Header

/-- The characters of a header: those of coded text, and the two marks of the format. -/
def IsHeaderChar (ch : Char) : Prop :=
  ('A' ≤ ch ∧ ch ≤ 'Z') ∨ ('a' ≤ ch ∧ ch ≤ 'z') ∨ ('0' ≤ ch ∧ ch ≤ '9') ∨
    ch ∈ ['-', '_', '.', '~', '%', ',', '=']

def IsUpperHex (ch : Char) : Prop := ('0' ≤ ch ∧ ch ≤ '9') ∨ ('A' ≤ ch ∧ ch ≤ 'F')

instance : DecidablePred IsHeaderChar := fun _ => inferInstanceAs (Decidable (_ ∨ _))

instance : DecidablePred IsUpperHex := fun _ => inferInstanceAs (Decidable (_ ∨ _))

/-- Behind every percent sign stand two upper-case hexadecimal digits. -/
def WellEscaped (cs : List Char) : Prop :=
  ∀ rest, '%' :: rest <:+ cs →
    ∃ high low after, rest = high :: low :: after ∧ IsUpperHex high ∧ IsUpperHex low

namespace WellEscaped

variable {a b : List Char}

theorem of_not_mem (h : '%' ∉ a) : WellEscaped a := by
  intro rest inside
  exact absurd (inside.subset List.mem_cons_self) h

theorem append (ha : WellEscaped a) (hb : WellEscaped b) : WellEscaped (a ++ b) := by
  intro rest inside
  rcases Text.suffix_append_cases inside with second | ⟨inner, first, rfl⟩
  · exact hb rest second
  · obtain ⟨high, low, after, rfl, digits⟩ := ha inner first
    exact ⟨high, low, after ++ b, rfl, digits⟩

theorem cons {c : Char} (differ : c ≠ '%') (ha : WellEscaped a) : WellEscaped (c :: a) := by
  have alone : WellEscaped [c] := of_not_mem (by simpa using differ.symm)
  exact alone.append ha

theorem escape {high low : Char} (hh : IsUpperHex high) (hl : IsUpperHex low) :
    WellEscaped ['%', high, low] := by
  have no_sign : ¬ IsUpperHex '%' := by decide
  have digits : WellEscaped [high, low] := by
    apply of_not_mem
    intro sign
    rcases List.mem_pair.1 sign with rfl | rfl
    · exact no_sign hh
    · exact no_sign hl
  intro rest inside
  rcases List.suffix_cons_iff.1 inside with whole | later
  · obtain ⟨-, rfl⟩ := List.cons.inj whole
    exact ⟨high, low, [], rfl, hh, hl⟩
  · exact digits rest later

theorem flatMap {α : Type} {f : α → List Char} {xs : List α} (h : ∀ x ∈ xs, WellEscaped (f x)) :
    WellEscaped (xs.flatMap f) := by
  induction xs with
  | nil => exact of_not_mem List.not_mem_nil
  | cons x xs ih =>
    rw [List.forall_mem_cons] at h
    exact h.1.append (ih h.2)

theorem join {sep : Char} (differ : sep ≠ '%') {pieces : List (List Char)}
    (h : ∀ piece ∈ pieces, WellEscaped piece) : WellEscaped (Text.join sep pieces) := by
  cases pieces with
  | nil => exact of_not_mem List.not_mem_nil
  | cons piece pieces =>
    rw [List.forall_mem_cons] at h
    rw [Text.join_cons]
    exact h.1.append (flatMap fun other ho => (h.2 other ho).cons differ)

theorem encodeByte (b : UInt8) : WellEscaped (Text.Percent.encodeByte b) := by
  have small : b.toNat < 256 := b.toNat_lt
  have digit (n : Fin 16) : IsUpperHex (Text.upperDigit n) := by
    revert n
    decide
  rw [Text.Percent.encodeByte]
  split
  next plain =>
    apply of_not_mem
    rw [List.mem_singleton]
    intro same
    have ascii : b.toNat < 0x80 := Text.Percent.toNat_lt_of_isUnreserved plain
    have code : '%'.toNat = b.toNat := same ▸ Text.Percent.toNat_char ⟨b.toNat, ascii⟩
    obtain rfl : b = 0x25 := UInt8.toNat_inj.1 code.symm
    exact absurd plain (by decide)
  next => exact escape (digit ⟨b.toNat / 16, by omega⟩) (digit ⟨b.toNat % 16, by omega⟩)

theorem encode (cs : List Char) : WellEscaped (Text.Percent.encode cs) :=
  flatMap fun b _ => encodeByte b

end WellEscaped

theorem isHeaderChar_of_isCoded {ch : Char} (h : Text.Percent.IsCoded ch) : IsHeaderChar ch := by
  obtain ⟨ascii, rfl | unreserved⟩ := h
  · decide
  · revert ch
    apply Text.ascii_of_table
    decide +kernel

theorem IsHeaderChar.visible {ch : Char} (h : IsHeaderChar ch) :
    0x20 < ch.toNat ∧ ch.toNat < 0x7F := by
  have range {first last : Char} (above : 0x20 < first.toNat) (below : last.toNat < 0x7F)
      (within : first ≤ ch ∧ ch ≤ last) : 0x20 < ch.toNat ∧ ch.toNat < 0x7F := by
    have low : first.toNat ≤ ch.toNat := UInt32.le_iff_toNat_le.1 within.1
    have high : ch.toNat ≤ last.toNat := UInt32.le_iff_toNat_le.1 within.2
    omega
  have marks : ∀ c ∈ ['-', '_', '.', '~', '%', ',', '='], 0x20 < c.toNat ∧ c.toNat < 0x7F := by simp
  rcases h with upper | lower | digit | mark
  · exact range (by decide) (by decide) upper
  · exact range (by decide) (by decide) lower
  · exact range (by decide) (by decide) digit
  · exact marks ch mark

theorem isHeaderChar_of_mem_writeEntry {name : String} {v : Json.Value} {ch : Char}
    (h : ch ∈ writeEntry name v) : IsHeaderChar ch := by
  rw [writeEntry, List.mem_append, List.mem_cons] at h
  rcases h with before | rfl | behind
  · exact isHeaderChar_of_isCoded (Text.Percent.isCoded_of_mem_encode before)
  · decide
  · exact isHeaderChar_of_isCoded (Text.Percent.isCoded_of_mem_encode behind)

theorem count_equals_writeEntry (name : String) (v : Json.Value) :
    (writeEntry name v).count '=' = 1 := by
  have unmarked (cs : List Char) : (Text.Percent.encode cs).count '=' = 0 :=
    List.count_eq_zero.2 (Text.Percent.equals_not_mem_encode cs)
  rw [writeEntry, List.count_append, List.count_cons_self, unmarked, unmarked]

theorem wellEscaped_writeEntry (name : String) (v : Json.Value) :
    WellEscaped (writeEntry name v) :=
  (WellEscaped.encode _).append ((WellEscaped.encode _).cons (by decide))

theorem isHeaderChar_of_mem_write {b : Correlations} {ch : Char} (h : ch ∈ write b) :
    IsHeaderChar ch := by
  rcases Text.mem_join h with rfl | ⟨piece, hp, inside⟩
  · decide
  · obtain ⟨e, -, rfl⟩ := List.mem_map.1 hp
    exact isHeaderChar_of_mem_writeEntry inside

theorem count_equals_write (b : Correlations) : (write b).count '=' = b.entries.length := by
  rw [← List.length_map]
  apply Text.count_join_of_ne (by decide)
  intro piece hp
  obtain ⟨e, -, rfl⟩ := List.mem_map.1 hp
  exact count_equals_writeEntry e.1 e.2

theorem count_comma_write {b : Correlations} (h : b.entries ≠ []) :
    (write b).count ',' + 1 = b.entries.length := by
  rw [← List.length_map]
  apply Text.count_sep_join (by simpa using h)
  intro piece hp
  obtain ⟨e, -, rfl⟩ := List.mem_map.1 hp
  exact comma_not_mem_writeEntry e.1 e.2

theorem wellEscaped_write (b : Correlations) : WellEscaped (write b) := by
  apply WellEscaped.join (by decide)
  intro piece hp
  obtain ⟨e, -, rfl⟩ := List.mem_map.1 hp
  exact wellEscaped_writeEntry e.1 e.2

/-- What is injected is one field, made of few characters that can all be seen. It has an equals sign
for each entry and a comma between any two neighbours, no percent sign without its digits, and for
each entry a piece of its own, from which that entry is read. -/
theorem inject_confined {c : Context} (some_entry : c.correlations.entries ≠ [])
    (carrier : Carrier) :
    let entries := c.correlations.entries
    let header := write c.correlations
    inject carrier c = carrier.set fieldName (String.ofList header) ∧
      (∀ ch ∈ header, IsHeaderChar ch ∧ 0x20 < ch.toNat ∧ ch.toNat < 0x7F) ∧
      header.count '=' = entries.length ∧ header.count ',' + 1 = entries.length ∧
      WellEscaped header ∧
      List.Forall₂
        (fun (name, v) piece => piece.count '=' = 1 ∧ readEntry piece = some (name, plain v))
        entries (Text.split ',' header) := by
  intro entries header
  refine ⟨?_, ?_, count_equals_write _, count_comma_write some_entry, wellEscaped_write _, ?_⟩
  · have something : c.correlations.isEmpty = false := List.isEmpty_eq_false_iff.2 some_entry
    rw [inject, something, if_neg Bool.false_ne_true]
  · intro ch hc
    have known := isHeaderChar_of_mem_write hc
    exact ⟨known, known.visible⟩
  · rw [split_write some_entry, List.forall₂_map_right_iff, List.forall₂_same]
    rintro ⟨name, v⟩ -
    exact ⟨count_equals_writeEntry name v, readEntry_writeEntry name v⟩

theorem inject_confined_with_line_breaks :
    let b : Correlations := .ofPairs [("a=1,b\r\n", .array [.text "\"%,=", .null]), ("", .text "é")]
    let c := ((∅ : Context).withCorrelations b .start).1
    let header := write c.correlations
    c.correlations.entries ≠ [] ∧
      inject .empty c = Carrier.empty.set fieldName (String.ofList header) ∧
      header = "a%3D1%2Cb%0D%0A=%5B%22%5C%22%25%2C%3D%22%2Cnull%5D,=%C3%A9".toList ∧
      header.count '=' = 2 ∧ header.count ',' = 1 ∧ WellEscaped header := by
  intro b c header
  have kept : c.correlations = b := Context.correlations_withCorrelations _ _ _
  have some_entry : c.correlations.entries ≠ [] := kept ▸ List.cons_ne_nil _ _
  obtain ⟨sent, -, equals, commas, escaped, -⟩ := inject_confined some_entry .empty
  have two : c.correlations.entries.length = 2 := kept ▸ rfl
  refine ⟨some_entry, sent, ?_, equals.trans two, Nat.succ_inj.1 (commas.trans two), escaped⟩
  unfold header
  rw [kept]
  decide +kernel

end Header
end Ambient
