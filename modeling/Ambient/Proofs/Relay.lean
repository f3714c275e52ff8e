import Ambient.Proofs.RoundTrip

namespace Ambient

namespace Carrier

/-- Nothing that the carrier holds hides what is set under `name`. -/
def Open (name : String) : Carrier → Prop
  | .single _ => True
  | .multiple _ => True
  | .pairs fields => name ∉ fields.map (·.1)

theorem Open.get?_set {carrier : Carrier} {name : String} (h : carrier.Open name)
    (value : String) : (carrier.set name value).get? name = some value := by
  cases carrier with
  | single fields => exact @IsMap.get?_set (.single fields) trivial name value
  | multiple fields => exact @IsMap.get?_set (.multiple fields) trivial name value
  | pairs fields =>
    have absent := Correlations.find?_eq_none_iff.2 h
    simp [set, get?, absent]

end Carrier

namespace Correlations

open Json (Value)

/-- The values are texts, as they are in all that comes out of a header. -/
def Plain (b : Correlations) : Prop := ∀ e ∈ b.entries, ∃ s, e.2 = .text s

variable {b : Correlations} {name : String}

theorem mem_entries_insert {v : Value} {e : String × Value}
    (h : e ∈ (b.insert name v).entries) : e = (name, v) ∨ e ∈ b.entries := by
  obtain ⟨entries⟩ := b
  simp only [insert, exchange] at h
  induction entries with
  | nil => exact .inl (List.mem_singleton.1 h)
  | cons d rest ih =>
    obtain ⟨other, w⟩ := d
    by_cases found : other = name
    · simp only [bindEntry, if_pos found] at h
      exact (List.mem_cons.1 h).imp_right (List.mem_cons_of_mem _)
    · simp only [bindEntry, if_neg found] at h
      rcases List.mem_cons.1 h with rfl | later
      · exact .inr List.mem_cons_self
      · exact (ih later).imp_right (List.mem_cons_of_mem _)

theorem Plain.empty : (∅ : Correlations).Plain := fun _ he => nomatch he

theorem Plain.insert (h : b.Plain) (name s : String) : (b.insert name (.text s)).Plain := by
  intro e he
  rcases mem_entries_insert he with rfl | old
  · exact ⟨s, rfl⟩
  · exact h e old

theorem Plain.insertAll (h : b.Plain) (pairs : List (String × String)) :
    (b.insertAll (pairs.map fun (name, s) => (name, .text s))).Plain := by
  induction pairs generalizing b with
  | nil => exact h
  | cons e pairs ih => exact ih (h.insert e.1 e.2)

end Correlations

namespace Header

/-- A process on the way: the fields of what it sends on, and its own identities. -/
structure Stop where
  out : Carrier
  supply : Supply

def Stop.hop (stop : Stop) (received : Carrier) : Carrier :=
  inject stop.out (extract received ∅ stop.supply).1

def relay (stops : List Stop) (received : Carrier) : Carrier :=
  stops.foldl (fun received stop => stop.hop received) received

variable {b : Correlations} {c : Context} {received out : Carrier} {stop first : Stop}
  {stops : List Stop}

theorem plainEntries_of_plain (h : b.Plain) : plainEntries b = b.entries := by
  have same : ∀ e ∈ b.entries, (e.1, Json.Value.text (plain e.2)) = e := by
    rintro ⟨name, v⟩ he
    obtain ⟨s, rfl⟩ := h _ he
    rfl
  exact (List.map_congr_left same).trans (List.map_id _)

theorem write_congr {d : Correlations} (h : d.entries = plainEntries b) : write d = write b := by
  rw [write, h, plainEntries, List.map_map]
  rfl

theorem correlations_empty : (∅ : Context).correlations = ∅ := by
  rw [Context.correlations, Context.get?, Context.shared?_empty]
  rfl

/-- All that a header can say was built entry by entry out of texts. -/
theorem received_built_plain (received : Carrier) (supply : Supply) :
    (extract received ∅ supply).1.correlations.Built ∧
      (extract received ∅ supply).1.correlations.Plain := by
  cases arrived : received.get? fieldName with
  | none =>
    have nothing : (extract received ∅ supply).1 = ∅ := by
      rw [extract, arrived]
      rfl
    rw [nothing, correlations_empty]
    exact ⟨.collect [], .empty⟩
  | some header =>
    simp only [extract, arrived]
    rw [correlations_extendFrom, correlations_empty]
    exact ⟨.collect _, .insertAll .empty _⟩

theorem get?_inject (opens : out.Open fieldName) (h : c.correlations.entries ≠ []) :
    (inject out c).get? fieldName = some (String.ofList (write c.correlations)) := by
  have some_entry : c.correlations.isEmpty = false := List.isEmpty_eq_false_iff.2 h
  rw [inject, some_entry, if_neg Bool.false_ne_true, opens.get?_set]

theorem received_of_sent (built : b.Built) (h : b.entries ≠ [])
    (sent : received.get? fieldName = some (String.ofList (write b))) (supply : Supply) :
    (extract received ∅ supply).1.correlations.entries = plainEntries b := by
  have distinct : ((plainEntries b).map (·.1)).Nodup := by
    rw [map_fst_plainEntries]
    exact built.nodup_names
  rw [extract, sent]
  simp only [String.toList_ofList]
  rw [correlations_extendFrom_write h, correlations_empty]
  exact Correlations.entries_insertAll (c := ∅) distinct

theorem get?_hop (opens : stop.out.Open fieldName) (built : b.Built) (h : b.entries ≠ [])
    (sent : received.get? fieldName = some (String.ofList (write b))) :
    (stop.hop received).get? fieldName = some (String.ofList (write b)) := by
  have arrived := received_of_sent built h sent stop.supply
  have some_entry : (extract received ∅ stop.supply).1.correlations.entries ≠ [] := by
    rw [arrived]
    simpa [plainEntries] using h
  rw [← write_congr arrived]
  exact get?_inject opens some_entry

theorem get?_relay (opens : ∀ stop ∈ stops, stop.out.Open fieldName) (built : b.Built)
    (h : b.entries ≠ []) (sent : received.get? fieldName = some (String.ofList (write b))) :
    (relay stops received).get? fieldName = some (String.ofList (write b)) := by
  induction stops generalizing received with
  | nil => exact sent
  | cons stop stops ih =>
    rw [List.forall_mem_cons] at opens
    exact ih opens.2 (get?_hop opens.1 built h sent)

/-- Correlations that come out of a header are the ones that every later stop receives, under a
header that no longer changes. A header written for correlations built here never changes. -/
theorem relay_stable (opens : ∀ stop ∈ first :: stops, stop.out.Open fieldName) :
    (∀ received,
      let b := (extract received ∅ first.supply).1.correlations
      let header := String.ofList (write b)
      let last := relay stops (first.hop received)
      b.entries ≠ [] →
        (first.hop received).get? fieldName = some header ∧ last.get? fieldName = some header ∧
          ∀ supply, (extract last ∅ supply).1.correlations = b) ∧
      ∀ c : Context, c.correlations.Built → c.correlations.entries ≠ [] →
        let header := String.ofList (write c.correlations)
        (inject first.out c).get? fieldName = some header ∧
          (relay stops (inject first.out c)).get? fieldName = some header := by
  rw [List.forall_mem_cons] at opens
  constructor
  · intro received b header last h
    obtain ⟨built, texts⟩ := received_built_plain received first.supply
    have sent : (first.hop received).get? fieldName = some header := get?_inject opens.1 h
    have kept : last.get? fieldName = some header := get?_relay opens.2 built h sent
    refine ⟨sent, kept, fun supply => ?_⟩
    have arrived := received_of_sent built h kept supply
    rw [plainEntries_of_plain texts] at arrived
    exact congrArg Correlations.mk arrived
  · intro c built h header
    have sent : (inject first.out c).get? fieldName = some header := get?_inject opens.1 h
    exact ⟨sent, get?_relay opens.2 built h sent⟩

theorem relay_stable_of_bad_escapes :
    let received : Carrier :=
      .pairs [(fieldName, " k%3d = a+b%zz,skipped,n=%c3%28,k%3D=%e2%82%ac,= ")]
    let first : Stop := ⟨.pairs [("other", "1")], ⟨3⟩⟩
    let stops : List Stop :=
      [⟨.multiple (.ofList [(fieldName, ["old=1", "x"])]), .start⟩, ⟨.empty, .start⟩]
    let b := (extract received ∅ first.supply).1.correlations
    let own := ((∅ : Context).withCorrelations (.ofPairs [("a b", .bool true)]) .start).1
    (∀ stop ∈ first :: stops, stop.out.Open fieldName) ∧
      b.entries = [("k=", .text "€"), ("n", .text "\uFFFD("), ("", .text "")] ∧
      own.correlations.Built ∧ own.correlations.entries ≠ [] ∧
      (relay stops (first.hop received)).get? fieldName =
        some "k%3D=%E2%82%AC,n=%EF%BF%BD%28,=" ∧
      (relay stops (inject first.out own)).get? fieldName = some "a%20b=true" := by
  intro received first stops b own
  have opens : ∀ stop ∈ first :: stops, stop.out.Open fieldName := by
    simp [first, stops, Carrier.Open, Carrier.empty, fieldName]
  have kept : own.correlations = .ofPairs [("a b", .bool true)] :=
    Context.correlations_withCorrelations _ _ _
  have entries : b.entries = [("k=", .text "€"), ("n", .text "\uFFFD("), ("", .text "")] := by
    have header : received.get? fieldName =
        some " k%3d = a+b%zz,skipped,n=%c3%28,k%3D=%e2%82%ac,= " := rfl
    simp only [b, extract, header]
    rw [correlations_extendFrom, correlations_empty]
    rfl
  have built : own.correlations.Built := kept ▸ .collect _
  have some_own : own.correlations.entries ≠ [] := kept ▸ List.cons_ne_nil _ _
  obtain ⟨fromOutside, fromHere⟩ := relay_stable opens
  have some_entry : b.entries ≠ [] := entries ▸ List.cons_ne_nil _ _
  refine ⟨opens, entries, built, some_own, ?_, ?_⟩
  · rw [(fromOutside received some_entry).2.1, write, entries]
    rfl
  · rw [(fromHere own built some_own).2, kept]
    rfl

end Header
end Ambient
