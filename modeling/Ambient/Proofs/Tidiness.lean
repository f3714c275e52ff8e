import Ambient.Proofs.Combined
import Ambient.Proofs.Escaped

namespace Ambient.Header

def neat (piece : List Char) : List Char :=
  Text.trim (piece.takeWhile (· ≠ '=')) ++ '=' :: Text.trim (piece.dropWhile (· ≠ '=')).tail

/-- The pieces of a header that have an equals sign, without padding. -/
def tidied (header : List Char) : List Char :=
  Text.join ',' (((header.splitOn ',').filter ('=' ∈ ·)).map neat)

/-- A name and a value with blanks before and behind each. -/
def Padded (name value piece : List Char) : Prop :=
  ∃ a b c d, Text.isBlankText a ∧ Text.isBlankText b ∧ Text.isBlankText c ∧ Text.isBlankText d ∧
    piece = a ++ name ++ b ++ '=' :: (c ++ value ++ d)

/-- Pieces that differ in padding and in pieces without an equals sign at most. -/
inductive Alike : List (List Char) → List (List Char) → Prop
  | nil : Alike [] []
  | strayLeft {p : List Char} {ps qs : List (List Char)} (unmarked : '=' ∉ p)
      (rest : Alike ps qs) : Alike (p :: ps) qs
  | strayRight {q : List Char} {ps qs : List (List Char)} (unmarked : '=' ∉ q)
      (rest : Alike ps qs) : Alike ps (q :: qs)
  | entry {name value p q : List Char} {ps qs : List (List Char)} (unmarked : '=' ∉ name)
      (whole : ',' ∉ name ∧ ',' ∉ value) (left : Padded name value p)
      (right : Padded name value q) (rest : Alike ps qs) : Alike (p :: ps) (q :: qs)

variable {carrier other : Carrier} {name value piece header : List Char}
  {pieces ps qs : List (List Char)}

theorem Padded.unpadded (name value : List Char) : Padded name value (name ++ '=' :: value) :=
  ⟨[], [], [], [], rfl, rfl, rfl, rfl, by simp⟩

theorem accepted_eq_nil_iff : accepted header = [] ↔ '=' ∉ header := by
  rw [← read_eq_accepted, read_eq_nil_iff]

theorem received_padded {a b : List Char} (ha : Text.isBlankText a) (hb : Text.isBlankText b)
    (cs : List Char) : received (a ++ cs ++ b) = received cs := by
  rw [received, Text.trim_padded ha hb, received]

theorem accepted_entry (unmarked : '=' ∉ name) (whole : ',' ∉ name ∧ ',' ∉ value) :
    accepted (name ++ '=' :: value) = [(received name, received value)] := by
  have one : ',' ∉ name ++ '=' :: value := by
    rw [List.mem_append, List.mem_cons, not_or, not_or]
    exact ⟨whole.1, by decide, whole.2⟩
  rw [← read_eq_accepted, read, Text.split_of_not_mem one, List.filterMap_cons, readEntry,
    Text.cut_append unmarked]
  rfl

theorem Padded.accepted (h : Padded name value piece) (unmarked : '=' ∉ name)
    (whole : ',' ∉ name ∧ ',' ∉ value) :
    Header.accepted piece = [(received name, received value)] := by
  obtain ⟨a, b, c, d, ha, hb, hc, hd, rfl⟩ := h
  have mark : Text.isBlank '=' = false := by decide
  have comma : Text.isBlank ',' = false := by decide
  have unmarked' : '=' ∉ a ++ name ++ b := by
    simp [unmarked, Text.not_mem_of_isBlankText ha mark, Text.not_mem_of_isBlankText hb mark]
  have whole' : ',' ∉ a ++ name ++ b ∧ ',' ∉ c ++ value ++ d := by
    simp [whole, Text.not_mem_of_isBlankText ha comma, Text.not_mem_of_isBlankText hb comma,
      Text.not_mem_of_isBlankText hc comma, Text.not_mem_of_isBlankText hd comma]
  rw [accepted_entry unmarked' whole', received_padded ha hb, received_padded hc hd]

theorem Alike.accepted (h : Alike ps qs) : ps.flatMap Header.accepted = qs.flatMap Header.accepted := by
  induction h with
  | nil => rfl
  | strayLeft unmarked _ ih =>
    rw [List.flatMap_cons, accepted_eq_nil_iff.2 unmarked]
    exact ih
  | strayRight unmarked _ ih =>
    rw [List.flatMap_cons, accepted_eq_nil_iff.2 unmarked]
    exact ih
  | entry unmarked whole left right _ ih =>
    rw [List.flatMap_cons, List.flatMap_cons, left.accepted unmarked whole,
      right.accepted unmarked whole, ih]

theorem Padded.trimmed (name value : List Char) :
    Padded (Text.trim name) (Text.trim value) (name ++ '=' :: value) := by
  obtain ⟨a, b, ha, hb, before⟩ := Text.exists_padding name
  obtain ⟨c, d, hc, hd, behind⟩ := Text.exists_padding value
  refine ⟨a, b, c, d, ha, hb, hc, hd, ?_⟩
  rw [← before, ← behind]

theorem neat_entry (unmarked : '=' ∉ name) (value : List Char) :
    neat (name ++ '=' :: value) = Text.trim name ++ '=' :: Text.trim value := by
  have marked : '=' ∈ name ++ '=' :: value := by simp
  have same := (Text.cut_of_mem marked).symm.trans (Text.cut_append unmarked value)
  obtain ⟨before, behind⟩ := Prod.mk.inj (Option.some.inj same)
  rw [neat, before, behind]

theorem alike_neat (one : ∀ piece ∈ pieces, ',' ∉ piece) :
    Alike pieces ((pieces.filter ('=' ∈ ·)).map neat) := by
  induction pieces with
  | nil => exact .nil
  | cons piece pieces ih =>
    rw [List.forall_mem_cons] at one
    have rest := ih one.2
    by_cases marked : '=' ∈ piece
    · rw [List.filter_cons_of_pos (by simpa using marked), List.map_cons]
      obtain ⟨name, value, rfl, unmarked⟩ := List.eq_append_cons_of_mem marked
      have whole : ',' ∉ name ∧ ',' ∉ value := by
        constructor <;> intro comma <;> exact one.1 (by simp [comma])
      rw [neat_entry unmarked]
      refine .entry ?_ ?_ (.trimmed name value) (.unpadded _ _) rest
      · exact fun h => unmarked (Text.mem_of_mem_trim h)
      · exact ⟨fun h => whole.1 (Text.mem_of_mem_trim h), fun h => whole.2 (Text.mem_of_mem_trim h)⟩
    · rw [List.filter_cons_of_neg (by simpa using marked)]
      exact .strayLeft marked rest

theorem alike_tidied (header : List Char) :
    Alike (header.splitOn ',') (((header.splitOn ',').filter ('=' ∈ ·)).map neat) := by
  apply alike_neat
  intro piece hp
  rw [← Text.split_eq_splitOn] at hp
  exact Text.not_mem_of_mem_split hp

theorem accepted_pieces (pieces : List (List Char)) :
    accepted (Text.join ',' pieces) = pieces.flatMap accepted := by
  cases pieces with
  | nil => rfl
  | cons piece pieces => exact accepted_join (List.cons_ne_nil piece pieces)

theorem accepted_split (header : List Char) :
    accepted header = (header.splitOn ',').flatMap accepted := by
  rw [← accepted_pieces, Text.join, List.intercalate_splitOn]

theorem extract_congr (same : arrived other = arrived carrier) : extract other = extract carrier := by
  funext base
  rw [extract_eq, extract_eq, same]

theorem extract_of_alike {header : String} (brings : carrier.get? fieldName = some header)
    (alike : Alike (header.toList.splitOn ',') pieces)
    (brings' : other.get? fieldName = some (String.ofList (Text.join ',' pieces))) :
    extract other = extract carrier := by
  apply extract_congr
  rw [arrived_of_get? brings, arrived_of_get? brings', String.toList_ofList, accepted_pieces,
    accepted_split header.toList, alike.accepted]

/-- A header says what is left of it when the pieces without an equals sign and the blanks around names
and values are taken out, and what it says when any such are put in. An escaped character, be it a
blank, stays where it is in the name or the value. -/
theorem extract_tidied {header : String} (brings : carrier.get? fieldName = some header) :
    (∀ other : Carrier, other.get? fieldName = some (String.ofList (tidied header.toList)) →
      ∀ base supply, extract other base supply = extract carrier base supply) ∧
    (∀ (pieces : List (List Char)) (other : Carrier), Alike (header.toList.splitOn ',') pieces →
      other.get? fieldName = some (String.ofList (Text.join ',' pieces)) →
      ∀ base supply, extract other base supply = extract carrier base supply) ∧
    (∀ base supply, (extract carrier base supply).1.correlations =
      base.correlations.insertAll (texts (accepted header.toList))) ∧
    ∀ left escaped right c, Text.Percent.Escapes (String.utf8EncodeChar c) escaped →
      received (left ++ escaped ++ right) =
        String.ofList (Text.Percent.decode (Text.trimLeft left) ++
          c :: Text.Percent.decode (Text.trimRight right)) := by
  refine ⟨?_, ?_, ?_, ?_⟩
  · intro other brings' base supply
    rw [extract_of_alike brings (alike_tidied header.toList) brings']
  · intro pieces other alike brings' base supply
    rw [extract_of_alike brings alike brings']
  · intro base supply
    rw [correlations_extract, arrived_of_get? brings]
  · intro left escaped right c escapes
    obtain ⟨b, bs, bytes, -⟩ := Text.Utf8.exists_encodeChar_eq_cons c
    have some_byte : String.utf8EncodeChar c ≠ [] := bytes ▸ List.cons_ne_nil b bs
    rw [received, escapes.trim_append some_byte, Text.Percent.decode_append_escaped escapes]

theorem extract_tidied_with_escaped_blanks :
    let w := Workbook.blank.after [.derive none (.correlations [("n", .null)]) "base"]
    let base := w.context "base"
    let header := "\u00A0k%20 =\t%09v,stray,,n=1 "
    let pieces := ["k%20 = %09v", "n\t=1", "other"].map String.toList
    let carrier : Carrier := .single (.ofList [(fieldName, header)])
    let tidy : Carrier := .pairs [(fieldName, "k%20=%09v,n=1")]
    let longer : Carrier := .multiple (.ofList [(fieldName, ["k%20 = %09v", "n\t=1", "other"])])
    carrier.get? fieldName = some header ∧
      tidy.get? fieldName = some (String.ofList (tidied header.toList)) ∧
      Alike (header.toList.splitOn ',') pieces ∧
      longer.get? fieldName = some (String.ofList (Text.join ',' pieces)) ∧
      Text.Percent.Escapes (String.utf8EncodeChar ' ') "%20".toList ∧
      received "k%20 ".toList = "k " ∧
      (extract carrier base w.supply).1.correlations.entries =
        [("n", .text "1"), ("k ", .text "\tv")] ∧
      extract tidy base w.supply = extract carrier base w.supply ∧
      extract longer base w.supply = extract carrier base w.supply := by
  intro w base header pieces carrier tidy longer
  have brings : carrier.get? fieldName = some header := rfl
  have tidies : tidy.get? fieldName = some (String.ofList (tidied header.toList)) := by
    have neatly : tidied header.toList = "k%20=%09v,n=1".toList := by decide
    rw [neatly]
    rfl
  have alike : Alike (header.toList.splitOn ',') pieces := by
    have first : Padded "k%20".toList "%09v".toList "\u00A0k%20 =\t%09v".toList :=
      ⟨['\u00A0'], [' '], ['\t'], [], by decide⟩
    have first' : Padded "k%20".toList "%09v".toList "k%20 = %09v".toList :=
      ⟨[], [' '], [' '], [], by decide⟩
    have second : Padded ['n'] ['1'] "n=1 ".toList := ⟨[], [], [], [' '], by decide⟩
    have second' : Padded ['n'] ['1'] "n\t=1".toList := ⟨[], ['\t'], [], [], by decide⟩
    have split : header.toList.splitOn ',' =
        ["\u00A0k%20 =\t%09v", "stray", "", "n=1 "].map String.toList := by decide
    rw [split]
    apply Alike.entry (by decide) (by decide) first first'
    apply Alike.strayLeft (by decide)
    apply Alike.strayLeft (by decide)
    apply Alike.entry (by decide) (by decide) second second'
    exact .strayRight (by decide) .nil
  have longs : longer.get? fieldName = some (String.ofList (Text.join ',' pieces)) := rfl
  have escapes : Text.Percent.Escapes [UInt8.ofNat (2 * 16 + 0)] ['%', '2', '0'] :=
    .cons rfl rfl .nil
  obtain ⟨fromTidy, fromAlike, merged, kept⟩ := extract_tidied brings
  refine ⟨brings, tidies, alike, longs, escapes, ?_, ?_, fromTidy tidy tidies base w.supply,
    fromAlike pieces longer alike longs base w.supply⟩
  · exact kept ['k'] "%20".toList [' '] ' ' escapes
  · have own : base.correlations = .ofPairs [("n", .null)] := rfl
    have came : accepted header.toList = [("k ", "\tv"), ("n", "1")] := by
      unfold header
      rfl
    rw [merged, own, came]
    rfl

end Ambient.Header
