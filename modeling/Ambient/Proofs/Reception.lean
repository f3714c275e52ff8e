import Ambient.Proofs.Identity
import Ambient.Proofs.RoundTrip

namespace Ambient

namespace Text

theorem split_eq_splitOn (sep : Char) (cs : List Char) : split sep cs = cs.splitOn sep := by
  induction cs with
  | nil => rfl
  | cons c cs ih => simp only [split, List.splitOn_cons_eq_if_modifyHead, ih, beq_iff_eq]

theorem cut_of_mem {mark : Char} {cs : List Char} (h : mark ∈ cs) :
    cut mark cs = some (cs.takeWhile (· ≠ mark), (cs.dropWhile (· ≠ mark)).tail) := by
  induction cs with
  | nil => cases h
  | cons c cs ih =>
    by_cases hc : c = mark
    · simp [cut, hc]
    · have later : mark ∈ cs := (List.mem_cons.1 h).resolve_left (Ne.symm hc)
      simp [cut, hc, ih later]

end Text

namespace Header

/-- The text that coded and padded text stands for. -/
def received (cs : List Char) : String := String.ofList (Text.Percent.decode (Text.trim cs))

def accepted (header : List Char) : List (String × String) :=
  ((header.splitOn ',').filter ('=' ∈ ·)).map fun piece =>
    (received (piece.takeWhile (· ≠ '=')), received (piece.dropWhile (· ≠ '=')).tail)

def arrived (carrier : Carrier) : List (String × String) :=
  match carrier.get? fieldName with
  | none => []
  | some header => accepted header.toList

def texts (came : List (String × String)) : List (String × Json.Value) :=
  came.map fun (name, s) => (name, .text s)

variable {carrier : Carrier} {base : Context} {supply : Supply}

theorem readEntry_of_mem {piece : List Char} (marked : '=' ∈ piece) :
    readEntry piece =
      some (received (piece.takeWhile (· ≠ '=')), received (piece.dropWhile (· ≠ '=')).tail) := by
  rw [readEntry, Text.cut_of_mem marked]
  rfl

theorem read_eq_accepted (header : List Char) : read header = accepted header := by
  rw [read, accepted, Text.split_eq_splitOn]
  induction header.splitOn ',' with
  | nil => rfl
  | cons piece pieces ih =>
    by_cases marked : '=' ∈ piece
    · rw [List.filter_cons_of_pos (by simpa using marked), List.map_cons, ← ih,
        List.filterMap_cons_some (readEntry_of_mem marked)]
    · rw [List.filter_cons_of_neg (by simpa using marked), ← ih,
        List.filterMap_cons_none (readEntry_eq_none_iff.2 marked)]

theorem arrived_eq_nil_iff :
    arrived carrier = [] ↔
      ∀ header, carrier.get? fieldName = some header → '=' ∉ header.toList := by
  rw [arrived]
  cases carrier.get? fieldName with
  | none => simp
  | some header => simp [← read_eq_accepted, read_eq_nil_iff]

/-- Correlations are bound anew if an entry arrived, and else nothing happens. -/
theorem extract_eq (carrier : Carrier) (base : Context) :
    extract carrier base =
      if arrived carrier = [] then pure base
      else base.withCorrelations (base.correlations.insertAll (texts (arrived carrier))) := by
  rw [extract, arrived]
  cases carrier.get? fieldName with
  | none => rfl
  | some header =>
    simp only [extendFrom_eq, read_eq_accepted]
    rfl

theorem correlations_extract (carrier : Carrier) (base : Context) (supply : Supply) :
    (extract carrier base supply).1.correlations =
      base.correlations.insertAll (texts (arrived carrier)) := by
  rw [extract, arrived]
  cases carrier.get? fieldName with
  | none => rfl
  | some header =>
    simp only [correlations_extendFrom, read_eq_accepted]
    rfl

theorem shared?_extract (carrier : Carrier) (base : Context) (supply : Supply) {key : String}
    (other : key ≠ Context.correlationsKey) :
    (extract carrier base supply).1.shared? key = base.shared? key := by
  rw [extract_eq]
  split
  next => rfl
  next => exact (Context.shared?_withShared base _ key _).trans (if_neg (Ne.symm other))

theorem lookup_texts (came : List (String × String)) (name : String) :
    (texts came).reverse.lookup name = (came.reverse.lookup name).map .text := by
  induction came with
  | nil => rfl
  | cons e came ih =>
    have first : texts (e :: came) = (e.1, .text e.2) :: texts came := rfl
    rw [first, lookup_reverse_cons, lookup_reverse_cons, ih]
    by_cases h : e.1 = name <;> cases came.reverse.lookup name <;> simp [h]

/-- Where an entry arrives the correlations are shared anew, even if they are what they were. -/
theorem extract_cases (carrier : Carrier) (base : Context) (supply : Supply) :
    arrived carrier = [] ∧ extract carrier base supply = (base, supply) ∨
      arrived carrier ≠ [] ∧ (extract carrier base supply).2.next = supply.next + 1 ∧
        ∃ v, (extract carrier base supply).1.shared? Context.correlationsKey = some v ∧
          v.id = supply.next := by
  rw [extract_eq]
  by_cases nothing : arrived carrier = []
  · rw [if_pos nothing]
    exact .inl ⟨nothing, rfl⟩
  · rw [if_neg nothing]
    exact .inr ⟨nothing, rfl, _, Context.shared?_withShared_self base _ _, rfl⟩

theorem extract_same_iff (within : base.Within supply) (carrier : Carrier) :
    ((extract carrier base supply).1 == base) = true ↔ arrived carrier = [] := by
  apply within.same_iff_left
  rcases extract_cases carrier base supply with ⟨nothing, stays⟩ | ⟨some_entry, -, v, bound, id⟩
  · exact .inl ⟨nothing, congrArg Prod.fst stays⟩
  · exact .inr ⟨some_entry, v, bound, Nat.le_of_eq id.symm⟩

/-- The header of a carrier is merged entry by entry. What the context had keeps its place, with the
value of the last entry of its name if there is one, and the new names stand behind it in the order
in which each came first. Nothing else in the context changes, and nothing at all if and only if no
equals sign is received. -/
theorem entries_extract (distinct : base.correlations.names.Nodup) (within : base.Within supply)
    (carrier : Carrier) :
    let came := arrived carrier
    let before := base.correlations
    let after := (extract carrier base supply).1
    let fresh := ((came.map (·.1)).filter (· ∉ before.names)).eraseDups
    let last := fun name => (came.reverse.lookup name).map Json.Value.text
    after.correlations.entries =
        before.entries.map (fun (name, v) => (name, (last name).getD v)) ++
          fresh.filterMap (fun name => (last name).map (name, ·)) ∧
      after.correlations.names = before.names ++ fresh ∧
      (∀ key, key ≠ Context.correlationsKey → after.shared? key = base.shared? key) ∧
      ((after == base) = true ↔
        ∀ header, carrier.get? fieldName = some header → '=' ∉ header.toList) := by
  intro came before after fresh last
  have merged : after.correlations = before.insertAll (texts came) :=
    correlations_extract carrier base supply
  have arrivals : (texts came).map (·.1) = came.map (·.1) := by
    rw [texts, List.map_map]
    rfl
  have found (name : String) : (texts came).reverse.lookup name = last name :=
    lookup_texts came name
  refine ⟨?_, ?_, fun key => shared?_extract carrier base supply, ?_⟩
  · rw [merged, Correlations.entries_insertAll_latest distinct, arrivals]
    simp only [found]
    rfl
  · rw [merged, Correlations.names_insertAll, arrivals]
  · rw [extract_same_iff within, arrived_eq_nil_iff]

theorem entries_extract_repeated_names :
    let w := Workbook.blank.after
      [.derive none (.correlations [("a", .null), ("b", .bool true)]) "base"]
    let base := w.context "base"
    let carrier : Carrier :=
      .single (.ofList [(fieldName, "c = 1,b=2, skipped ,%63=3,d=%zz,b= 4")])
    let after := (extract carrier base w.supply).1
    base.correlations.names.Nodup ∧ base.Within w.supply ∧
      after.correlations.entries =
        [("a", .null), ("b", .text "4"), ("c", .text "3"), ("d", .text "%zz")] ∧
      ¬ (after == base) = true := by
  intro w base carrier after
  have own : base.correlations = .ofPairs [("a", .null), ("b", .bool true)] := rfl
  have header : carrier.get? fieldName = some "c = 1,b=2, skipped ,%63=3,d=%zz,b= 4" := rfl
  have came : arrived carrier =
      [("c", "1"), ("b", "2"), ("c", "3"), ("d", "%zz"), ("b", "4")] := rfl
  have distinct : base.correlations.names.Nodup := by
    rw [own]
    decide
  have within : base.Within w.supply := Workbook.within_after _ _
  obtain ⟨entries, -, -, same⟩ := entries_extract distinct within carrier
  refine ⟨distinct, within, ?_, ?_⟩
  · rw [entries, came, own]
    rfl
  · rw [same]
    intro unmarked
    exact absurd (unmarked _ header) (by decide)

end Header
end Ambient
