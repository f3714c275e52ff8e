import Ambient.Header
import Ambient.Proofs.Coded
import Ambient.Proofs.Naming

namespace Ambient

namespace Carrier

/-- Maps, which hold one entry a name. -/
def IsMap : Carrier → Prop
  | .single _ => True
  | .multiple _ => True
  | .pairs _ => False

/-- Two carriers of one kind that differ under `name` at most. -/
def SameApart (name : String) : Carrier → Carrier → Prop
  | .single a, .single b => ∀ key, key ≠ name → a[key]? = b[key]?
  | .multiple a, .multiple b => ∀ key, key ≠ name → a[key]? = b[key]?
  | .pairs a, .pairs b => a.filter (·.1 ≠ name) = b.filter (·.1 ≠ name)
  | _, _ => False

theorem joinValues_singleton (value : String) : joinValues [value] = value := by
  simp [joinValues, Text.join]

theorem IsMap.get?_set {carrier : Carrier} (h : carrier.IsMap) (name value : String) :
    (carrier.set name value).get? name = some value := by
  cases carrier with
  | single fields => exact Std.TreeMap.getElem?_insert_self
  | multiple fields =>
    simp only [set, get?, Std.TreeMap.getElem?_insert_self, joinValues_singleton]
  | pairs fields => exact h.elim

theorem SameApart.refl (carrier : Carrier) {name : String} : carrier.SameApart name carrier := by
  cases carrier with
  | single fields | multiple fields => exact fun _ _ => rfl
  | pairs fields => exact rfl

theorem SameApart.set (carrier : Carrier) (name value : String) :
    (carrier.set name value).SameApart name carrier := by
  cases carrier with
  | single fields | multiple fields =>
    intro key hkey
    exact (Std.TreeMap.getElem?_insert).trans (if_neg (by simpa using hkey.symm))
  | pairs fields => simp [Carrier.set, SameApart]

end Carrier

namespace Header

/-- The entries of correlations as a header can say them, with plain texts for values. -/
def plainEntries (b : Correlations) : List (String × Json.Value) :=
  b.entries.map fun (name, v) => (name, .text (plain v))

theorem readEntry_writeEntry (name : String) (v : Json.Value) :
    readEntry (writeEntry name v) = some (name, plain v) := by
  have marked := Text.cut_append (Text.Percent.equals_not_mem_encode name.toList)
    (Text.Percent.encode (plain v).toList)
  rw [readEntry, writeEntry, marked]
  simp only [Option.map_some, Text.Percent.trim_encode, Text.Percent.decode_encode,
    String.ofList_toList]

theorem comma_not_mem_writeEntry (name : String) (v : Json.Value) : ',' ∉ writeEntry name v := by
  rw [writeEntry, List.mem_append, List.mem_cons, not_or, not_or]
  exact ⟨Text.Percent.comma_not_mem_encode _, by decide, Text.Percent.comma_not_mem_encode _⟩

theorem split_write {b : Correlations} (h : b.entries ≠ []) :
    Text.split ',' (write b) = b.entries.map fun (name, v) => writeEntry name v := by
  refine Text.split_join (by simpa using h) ?_
  intro piece hp
  obtain ⟨e, -, rfl⟩ := List.mem_map.1 hp
  exact comma_not_mem_writeEntry e.1 e.2

theorem read_write {b : Correlations} (h : b.entries ≠ []) :
    read (write b) = b.entries.map fun (name, v) => (name, plain v) := by
  rw [read, split_write h, List.filterMap_map]
  simp only [Function.comp_def, readEntry_writeEntry, List.filterMap_eq_map']

theorem readEntry_eq_none_iff {piece : List Char} : readEntry piece = none ↔ '=' ∉ piece := by
  rw [readEntry, Option.map_eq_none_iff, Text.cut_eq_none_iff]

theorem read_eq_nil_iff {header : List Char} : read header = [] ↔ '=' ∉ header := by
  rw [read, List.filterMap_eq_nil_iff]
  constructor
  · intro nothing marked
    obtain ⟨piece, hp, he⟩ := Text.exists_mem_split marked (show '=' ≠ ',' by decide)
    exact readEntry_eq_none_iff.1 (nothing piece hp) he
  · intro unmarked piece hp
    rw [readEntry_eq_none_iff]
    intro he
    exact unmarked (Text.mem_of_mem_split hp he)

theorem not_blank_of_read_ne_nil {header : List Char} (h : read header ≠ []) :
    Text.isBlankText header = false := by
  rw [Ne, read_eq_nil_iff, not_not] at h
  rw [Text.isBlankText, List.all_eq_false]
  exact ⟨'=', h, by decide⟩

theorem extendFrom_eq (header : List Char) (base : Context) :
    extendFrom header base =
      if read header = [] then pure base
      else base.withCorrelations
        (base.correlations.insertAll ((read header).map fun (name, s) => (name, .text s))) := by
  cases found : read header with
  | nil => simp only [extendFrom, found, ite_self, if_true]
  | cons e rest =>
    have seen : Text.isBlankText header = false :=
      not_blank_of_read_ne_nil (found ▸ List.cons_ne_nil e rest)
    simp only [extendFrom, found, seen, if_neg Bool.false_ne_true, if_neg (List.cons_ne_nil e rest)]

theorem correlations_extendFrom (header : List Char) (base : Context) (supply : Supply) :
    (extendFrom header base supply).1.correlations =
      base.correlations.insertAll ((read header).map fun (name, s) => (name, .text s)) := by
  rw [extendFrom_eq]
  split
  next nothing =>
    rw [nothing]
    rfl
  next => exact Context.correlations_withCorrelations base _ supply

theorem correlations_extendFrom_write {b : Correlations} (h : b.entries ≠ []) (base : Context)
    (supply : Supply) :
    (extendFrom (write b) base supply).1.correlations =
      base.correlations.insertAll (plainEntries b) := by
  rw [correlations_extendFrom, read_write h, List.map_map]
  rfl

theorem correlations_extract_inject {c : Context} {carrier : Carrier} (map : carrier.IsMap)
    (h : c.correlations.entries ≠ []) (base : Context) (supply : Supply) :
    (extract (inject carrier c) base supply).1.correlations =
      base.correlations.insertAll (plainEntries c.correlations) := by
  have some_entry : c.correlations.isEmpty = false := by
    rw [Correlations.isEmpty, List.isEmpty_eq_false_iff]
    exact h
  rw [extract, inject, some_entry, if_neg Bool.false_ne_true, map.get?_set]
  simp only [String.toList_ofList]
  exact correlations_extendFrom_write h base supply

theorem map_fst_plainEntries (b : Correlations) : (plainEntries b).map (·.1) = b.names := by
  rw [plainEntries, List.map_map]
  rfl

theorem get?_plainEntries (b : Correlations) (name : String) :
    (⟨plainEntries b⟩ : Correlations).get? name = (b.get? name).map (.text ∘ plain) := by
  obtain ⟨entries⟩ := b
  induction entries with
  | nil => rfl
  | cons e rest ih =>
    obtain ⟨other, v⟩ := e
    simp only [plainEntries, List.map_cons] at ih ⊢
    rw [Correlations.get?_cons, Correlations.get?_cons, ih]
    split <;> rfl

/-- Correlations that were sent are merged into those of the receiver, in order and with plain
texts for values. Where there are none nothing is sent, and whatever is sent, all other fields of
the carrier stay. -/
theorem extract_inject {c : Context} (built : c.correlations.Built) {carrier : Carrier}
    (map : carrier.IsMap) (base : Context) (supply : Supply) :
    let sent := c.correlations
    let received := (extract (inject carrier c) base supply).1.correlations
    (sent.entries ≠ [] →
      received = base.correlations.insertAll (plainEntries sent) ∧
        (∀ name, received.get? name =
          ((sent.get? name).map (.text ∘ plain)).or (base.correlations.get? name)) ∧
        (base.correlations.entries = [] → received.entries = plainEntries sent)) ∧
      (sent.entries = [] → inject carrier c = carrier) ∧
      (inject carrier c).SameApart fieldName carrier := by
  intro sent received
  have distinct : ((plainEntries sent).map (·.1)).Nodup := by
    rw [map_fst_plainEntries]
    exact built.nodup_names
  refine ⟨fun h => ?_, fun h => ?_, ?_⟩
  · have merged : received = base.correlations.insertAll (plainEntries sent) :=
      correlations_extract_inject map h base supply
    refine ⟨merged, fun name => ?_, fun hb => ?_⟩
    · rw [merged, Correlations.get?_insertAll distinct, get?_plainEntries]
    · rw [merged, Correlations.entries_insertAll (by simpa [Correlations.names, hb] using distinct),
        hb, List.nil_append]
  · have nothing : c.correlations.isEmpty = true := List.isEmpty_iff.2 h
    rw [inject, if_pos nothing]
  · rw [inject]
    split
    next => exact .refl carrier
    next => exact .set carrier fieldName _

theorem extract_inject_with_marks :
    let b := ((Correlations.ofPairs [("na=me", .text " ä,50% "), ("gone", .null)]).erase
      "gone").insert "" (.bool true)
    let c := ((∅ : Context).withCorrelations b .start).1
    let carrier : Carrier := .multiple (.ofList [(fieldName, ["old=1", "x"]), ("other", [])])
    let base := ((∅ : Context).withCorrelations (.ofPairs [("na=me", .null)]) ⟨1⟩).1
    let received := (extract (inject carrier c) base ⟨2⟩).1.correlations
    c.correlations.Built ∧ carrier.IsMap ∧ c.correlations.entries ≠ [] ∧
      received.entries = [("na=me", .text " ä,50% "), ("", .text "true")] := by
  intro b c carrier base received
  have sent : c.correlations = b := Context.correlations_withCorrelations _ _ _
  have own : base.correlations = .ofPairs [("na=me", .null)] :=
    Context.correlations_withCorrelations _ _ _
  have built : c.correlations.Built := by
    rw [sent]
    exact ((Correlations.Built.collect _).erase "gone").insert "" (.bool true)
  have map : carrier.IsMap := trivial
  have some_entry : c.correlations.entries ≠ [] := by
    rw [sent]
    exact List.cons_ne_nil _ _
  have merged : received = base.correlations.insertAll (plainEntries c.correlations) :=
    ((extract_inject built map base ⟨2⟩).1 some_entry).1
  refine ⟨built, map, some_entry, ?_⟩
  rw [merged, own, sent]
  rfl

end Header
end Ambient
