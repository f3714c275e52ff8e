import Mathlib.Data.List.Dedup
import Ambient.Correlations.Edit
import Ambient.Proofs.Naming

namespace Ambient.Correlations

open Json (Value Tree)

/-- What correlations begin as. -/
inductive Origin where
  | nothing
  | collected (pairs : List (String × Value))
  | document (text : String)

inductive Change where
  | insert (name : String) (v : Value)
  | remove (name : String)

def Origin.load : Origin → Option Correlations
  | .nothing => some ∅
  | .collected pairs => some (ofPairs pairs)
  | .document text => ofText? text

def nameOf? : Tree → Option String
  | .array (.text name :: _) => some name
  | _ => none

def listed : Tree → List String
  | .array items => items.filterMap nameOf?
  | _ => []

/-- Pairs are merged where a name comes again, documents are not. -/
def Origin.occurrences (name : String) : Origin → Nat
  | .nothing => 0
  | .collected pairs => if name ∈ pairs.map (·.1) then 1 else 0
  | .document text => ((Tree.ofText? text).elim [] listed).count name

def Change.edit : Change → Edit
  | .insert name v => .insert name v
  | .remove name => .remove name

def changed (c : Correlations) (changes : List Change) : Correlations :=
  changes.foldl (fun c x => (c.edit x.edit).2) c

def Change.removes (name : String) : Change → Bool
  | .insert _ _ => false
  | .remove other => other = name

def removals (name : String) (changes : List Change) : Nat := changes.countP (·.removes name)

variable {origin : Origin} {c : Correlations} {name : String}

theorem nameOf?_eq_some {t : Tree} {e : String × Value} (h : entry? t = some e) :
    nameOf? t = some e.1 := by
  match t with
  | .array [first, second] =>
    simp only [ entry?, bind, Option.bind_eq_some_iff] at h
    obtain ⟨name, hn, v, -, found⟩ := h
    cases first with
    | text s =>
      cases hn
      cases found
      rfl
    | null | bool | number | broken | array | object => cases hn
  | .null | .bool _ | .number _ | .text _ | .broken | .object _ => cases h
  | .array [] | .array [_] | .array (_ :: _ :: _ :: _) => cases h

theorem names_of_items {items : List Tree} {entries : List (String × Value)}
    (h : items.mapM entry? = some entries) : entries.map (·.1) = items.filterMap nameOf? := by
  induction items generalizing entries with
  | nil =>
    cases h
    rfl
  | cons item items ih =>
    rw [List.mapM_cons] at h
    simp only [bind, Option.bind_eq_some_iff] at h
    obtain ⟨e, he, rest, hr, found⟩ := h
    cases found
    rw [List.filterMap_cons_some (nameOf?_eq_some he), ← ih hr]
    rfl

theorem names_of_ofTree? {t : Tree} (h : ofTree? t = some c) : c.names = listed t := by
  cases t with
  | array items =>
    obtain ⟨entries, read, rfl⟩ := Option.map_eq_some_iff.1 h
    exact names_of_items read
  | null | bool | number | text | broken | object => cases h

theorem count_names_of_load (h : origin.load = some c) (name : String) :
    c.names.count name = origin.occurrences name := by
  cases origin with
  | nothing =>
    cases h
    rfl
  | collected pairs =>
    cases h
    have distinct : (ofPairs pairs).names.Nodup := (Built.collect pairs).nodup_names
    have same : name ∈ (ofPairs pairs).names ↔ name ∈ pairs.map (·.1) := by
      rw [ofPairs, names_insertAll]
      simp [names, empty]
    rw [distinct.count, Origin.occurrences]
    simp only [same]
  | document text =>
    obtain ⟨t, ht, read⟩ := Option.bind_eq_some_iff.1 h
    rw [names_of_ofTree? read, Origin.occurrences, ht]
    rfl

/-- An insertion never makes a name come again that is there already, a removal takes one away. -/
theorem count_names_edit (c : Correlations) (x : Change) (name : String) :
    (c.edit x.edit).2.names.count name - 1 =
      c.names.count name - 1 - if x.removes name then 1 else 0 := by
  cases x with
  | insert other v =>
    have inserted : (c.edit (.insert other v)).2 = c.insert other v := rfl
    have stays : ¬ (Change.insert other v).removes name := Bool.false_ne_true
    rw [Change.edit, inserted, if_neg stays, names_insert]
    by_cases known : other ∈ c.names
    · rw [if_pos known]
      rfl
    · rw [if_neg known, List.count_append, List.count_singleton]
      by_cases same : other = name
      · have absent : c.names.count name = 0 := List.count_eq_zero.2 (same ▸ known)
        simp [same, absent]
      · simp [same]
  | remove other =>
    have removed : (c.edit (.remove other)).2 = c.erase other := rfl
    have one : (Change.remove other).removes name = (other == name) := rfl
    rw [Change.edit, removed, names_erase, List.count_erase, one, Nat.sub_right_comm]

theorem count_names_changed (c : Correlations) (changes : List Change) (name : String) :
    (c.changed changes).names.count name - 1 =
      c.names.count name - 1 - removals name changes := by
  induction changes generalizing c with
  | nil => rfl
  | cons x changes ih =>
    have first := count_names_edit c x name
    have rest : ((c.edit x.edit).2.changed changes).names.count name - 1 =
        (c.edit x.edit).2.names.count name - 1 - removals name changes := ih _
    have total : removals name (x :: changes) =
        removals name changes + if x.removes name then 1 else 0 := List.countP_cons
    have next : c.changed (x :: changes) = (c.edit x.edit).2.changed changes := rfl
    rw [next, rest, first, total]
    omega

theorem count_names_le_one_iff (h : origin.load = some c) (changes : List Change)
    (name : String) :
    (c.changed changes).names.count name ≤ 1 ↔
      origin.occurrences name ≤ removals name changes + 1 := by
  have start := count_names_of_load h name
  have run := count_names_changed c changes name
  omega

theorem get?_erase_eq_none_iff :
    (c.erase name).get? name = none ↔ c.names.count name ≤ 1 := by
  rw [get?_eq_none_iff, names_erase, ← List.count_eq_zero, List.count_erase_self]
  omega

theorem size_eq_length_dedup_iff : c.size = c.names.dedup.length ↔ c.names.Nodup := by
  have size : c.size = c.names.length := List.length_map _ |>.symm
  rw [size, ← List.dedup_eq_self]
  constructor
  · intro same
    exact (List.dedup_sublist c.names).eq_of_length same.symm
  · intro same
    rw [same]

/-- After changes no name comes twice, and the size is the number of the names, if and only if every
name was removed often enough: as often as it came again where the correlations began. A name that
is removed is gone under the same condition on that name. Only a document makes a name come
again. -/
theorem nodup_names_changed_iff (h : origin.load = some c) (changes : List Change) :
    let d := c.changed changes
    (d.names.Nodup ↔ ∀ name, origin.occurrences name ≤ removals name changes + 1) ∧
      (d.size = d.names.dedup.length ↔
        ∀ name, origin.occurrences name ≤ removals name changes + 1) ∧
      (∀ name, (d.erase name).get? name = none ↔
        origin.occurrences name ≤ removals name changes + 1) ∧
      ((∀ text, origin ≠ .document text) → d.names.Nodup) := by
  intro d
  have distinct : d.names.Nodup ↔
      ∀ name, origin.occurrences name ≤ removals name changes + 1 := by
    rw [List.nodup_iff_count_le_one]
    exact forall_congr' (count_names_le_one_iff h changes)
  refine ⟨distinct, size_eq_length_dedup_iff.trans distinct, ?_, ?_⟩
  · intro name
    rw [get?_erase_eq_none_iff]
    exact count_names_le_one_iff h changes name
  · intro built
    rw [distinct]
    intro name
    cases origin with
    | nothing => exact Nat.zero_le _
    | collected pairs =>
      rw [Origin.occurrences]
      split <;> omega
    | document text => exact absurd rfl (built text)

theorem nodup_names_changed_iff_repeated :
    let origin : Origin := .document "[[\"a\",1],[\"b\",2],[\"a\",1],[\"a\",3]]"
    let once : List Change := [.remove "a", .insert "a" .null]
    ∃ c, origin.load = some c ∧ ¬ (c.changed once).names.Nodup ∧
      ((c.changed once).erase "a").get? "a" ≠ none ∧
      (c.changed once).size ≠ (c.changed once).names.dedup.length ∧
      ((c.changed (.remove "a" :: once)).erase "a").get? "a" = none := by
  intro origin once
  obtain ⟨c, h⟩ : ∃ c, origin.load = some c := Option.isSome_iff_exists.1 (by decide +kernel)
  have thrice : origin.occurrences "a" = 3 := by decide +kernel
  obtain ⟨distinct, size, absent, -⟩ := nodup_names_changed_iff h once
  have kept : ¬ ∀ name, origin.occurrences name ≤ removals name once + 1 := by
    intro enough
    have : 3 ≤ 1 + 1 := thrice ▸ enough "a"
    omega
  refine ⟨c, h, ?_, ?_, ?_, ?_⟩
  · rw [distinct]
    exact kept
  · rw [Ne, absent, thrice]
    decide
  · rw [Ne, size]
    exact kept
  · rw [(nodup_names_changed_iff h (.remove "a" :: once)).2.2.1, thrice]
    decide

end Ambient.Correlations
