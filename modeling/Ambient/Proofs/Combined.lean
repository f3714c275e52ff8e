import Ambient.Proofs.Reception

namespace Ambient.Header

/-- Several carriers one after another, each into the result of the one before. -/
def extractAll (carriers : List Carrier) (c : Context) : StateM Supply Context :=
  carriers.foldlM (fun c carrier => extract carrier c) c

variable {carrier : Carrier} {parts : List Carrier} {values : List String} {base : Context}
  {s t : Supply}

theorem accepted_append (a b : List Char) :
    accepted (a ++ ',' :: b) = accepted a ++ accepted b := by
  rw [accepted, List.splitOn_append_cons_self, List.filter_append, List.map_append]
  rfl

theorem accepted_join {pieces : List (List Char)} (some_piece : pieces ≠ []) :
    accepted (Text.join ',' pieces) = pieces.flatMap accepted := by
  induction pieces with
  | nil => exact absurd rfl some_piece
  | cons piece pieces ih =>
    cases pieces with
    | nil => simp [Text.join]
    | cons next pieces =>
      rw [Text.join_cons_cons, accepted_append, ih (List.cons_ne_nil _ _)]
      exact List.flatMap_cons.symm

theorem arrived_of_get? {header : String} (h : carrier.get? fieldName = some header) :
    arrived carrier = accepted header.toList := by
  rw [arrived, h]

theorem arrived_multiple {fields : Std.TreeMap String (List String) compare}
    (found : fields[fieldName]? = some values) (some_value : values ≠ []) :
    arrived (.multiple fields) = values.flatMap (accepted ·.toList) := by
  have joined : (Carrier.multiple fields).get? fieldName = some (Carrier.joinValues values) := by
    rw [Carrier.get?, found]
    cases values with
    | nil => exact absurd rfl some_value
    | cons value values => rfl
  rw [arrived_of_get? joined, Carrier.joinValues, String.toList_ofList,
    accepted_join (by simpa using some_value), List.flatMap_map]

theorem flatMap_arrived (one : parts.map (·.get? fieldName) = values.map some) :
    parts.flatMap arrived = values.flatMap (accepted ·.toList) := by
  induction parts generalizing values with
  | nil =>
    cases values with
    | nil => rfl
    | cons value values => cases one
  | cons part parts ih =>
    cases values with
    | nil => cases one
    | cons value values =>
      obtain ⟨first, rest⟩ := List.cons.inj one
      rw [List.flatMap_cons, List.flatMap_cons, arrived_of_get? first, ih rest]

theorem extractAll_cons (part : Carrier) (parts : List Carrier) (base : Context) (s : Supply) :
    extractAll (part :: parts) base s =
      extractAll parts (extract part base s).1 (extract part base s).2 := rfl

theorem correlations_extractAll (parts : List Carrier) (base : Context) (s : Supply) :
    (extractAll parts base s).1.correlations =
      base.correlations.insertAll (texts (parts.flatMap arrived)) := by
  induction parts generalizing base s with
  | nil => rfl
  | cons part parts ih =>
    have both : texts (arrived part ++ parts.flatMap arrived) =
        texts (arrived part) ++ texts (parts.flatMap arrived) := List.map_append
    rw [extractAll_cons, ih, correlations_extract, List.flatMap_cons, both,
      Correlations.insertAll_append]

theorem shared?_extractAll (parts : List Carrier) (base : Context) (s : Supply) {key : String}
    (other : key ≠ Context.correlationsKey) :
    (extractAll parts base s).1.shared? key = base.shared? key := by
  induction parts generalizing base s with
  | nil => rfl
  | cons part parts ih => rw [extractAll_cons, ih, shared?_extract part base s other]

theorem extractAll_cases (parts : List Carrier) (base : Context) (s : Supply) :
    parts.flatMap arrived = [] ∧ (extractAll parts base s).1 = base ∨
      parts.flatMap arrived ≠ [] ∧ ∃ v,
        (extractAll parts base s).1.shared? Context.correlationsKey = some v ∧ s.next ≤ v.id := by
  induction parts generalizing base s with
  | nil => exact .inl ⟨rfl, rfl⟩
  | cons part parts ih =>
    rw [extractAll_cons, List.flatMap_cons]
    rcases extract_cases part base s with ⟨nothing, stays⟩ | ⟨some_entry, next, v, bound, id⟩
    · rw [nothing, stays, List.nil_append]
      exact ih base s
    · right
      constructor
      · simp [some_entry]
      · -- What was bound here stays, or a later part binds it anew under a higher identity.
        rcases ih (extract part base s).1 (extract part base s).2 with
          ⟨-, stays⟩ | ⟨-, w, rebound, newer⟩
        · rw [stays]
          exact ⟨v, bound, Nat.le_of_eq id.symm⟩
        · exact ⟨w, rebound, by omega⟩

theorem extractAll_same_iff (within : base.Within s) (parts : List Carrier) :
    ((extractAll parts base s).1 == base) = true ↔ parts.flatMap arrived = [] :=
  within.same_iff_left (extractAll_cases parts base s)

/-- Several values under one name, blank and malformed ones among them, leave the correlations that
the values leave one after another, and bind them anew if and only if these do. All else in the
context is the same. -/
theorem extract_multiple {fields : Std.TreeMap String (List String) compare}
    (found : fields[fieldName]? = some values) (some_value : values ≠ [])
    (one : parts.map (·.get? fieldName) = values.map some) (hs : base.Within s)
    (ht : base.Within t) :
    let whole := (extract (.multiple fields) base s).1
    let stepwise := (extractAll parts base t).1
    whole.correlations = stepwise.correlations ∧
      (∀ key, key ≠ Context.correlationsKey → whole.shared? key = stepwise.shared? key) ∧
      ((whole == base) = true ↔ (stepwise == base) = true) := by
  intro whole stepwise
  have same : arrived (.multiple fields) = parts.flatMap arrived := by
    rw [arrived_multiple found some_value, flatMap_arrived one]
  refine ⟨?_, ?_, ?_⟩
  · rw [correlations_extract, correlations_extractAll, same]
  · intro key other
    rw [shared?_extract _ base s other, shared?_extractAll parts base t other]
  · rw [extract_same_iff hs, extractAll_same_iff ht, same]

theorem extract_multiple_with_blank_values :
    let values := ["a=1, b", " ", "", "b=2,%61=3"]
    let fields : Std.TreeMap String (List String) compare :=
      .ofList [(fieldName, values), ("other", [])]
    let parts := values.map fun value => Carrier.single (.ofList [(fieldName, value)])
    let w := Workbook.blank.after [.derive none (.correlations [("b", .null)]) "base"]
    let base := w.context "base"
    let whole := (extract (.multiple fields) base w.supply).1
    let stepwise := (extractAll parts base w.supply).1
    fields[fieldName]? = some values ∧ values ≠ [] ∧
      parts.map (·.get? fieldName) = values.map some ∧ base.Within w.supply ∧
      whole.correlations.entries = [("b", .text "2"), ("a", .text "3")] ∧
      stepwise.correlations = whole.correlations ∧ ¬ (stepwise == base) = true := by
  intro values fields parts w base whole stepwise
  have found : fields[fieldName]? = some values := rfl
  have some_value : values ≠ [] := List.cons_ne_nil _ _
  have one : parts.map (·.get? fieldName) = values.map some := rfl
  have within : base.Within w.supply := Workbook.within_after _ _
  have own : base.correlations = .ofPairs [("b", .null)] := rfl
  have came : arrived (.multiple fields) = [("a", "1"), ("b", "2"), ("a", "3")] := by
    rw [arrived_multiple found some_value]
    rfl
  obtain ⟨correlations, -, same⟩ := extract_multiple found some_value one within within
  have merged : whole.correlations.entries = [("b", .text "2"), ("a", .text "3")] := by
    rw [correlations_extract, came, own]
    rfl
  refine ⟨found, some_value, one, within, merged, correlations.symm, ?_⟩
  rw [← same, extract_same_iff within, came]
  exact List.cons_ne_nil _ _

end Ambient.Header
