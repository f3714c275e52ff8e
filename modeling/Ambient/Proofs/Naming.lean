import Mathlib.Data.List.Nodup
import Ambient.Correlations

namespace Ambient

theorem lookup_reverse_cons {α : Type} (name : String) (v : α) (pairs : List (String × α))
    (key : String) :
    ((name, v) :: pairs).reverse.lookup key =
      (pairs.reverse.lookup key).or (if name = key then some v else none) := by
  rw [List.reverse_cons, List.lookup_append]
  by_cases h : name = key
  · subst h
    rw [List.lookup_cons_self, if_pos rfl]
  · have passed : (key == name) = false := beq_false_of_ne (Ne.symm h)
    rw [List.lookup_cons, passed, if_neg h]
    rfl

namespace Correlations

open Json (Value)

/-- Built from pairs by insertions and removals, and by nothing else. -/
inductive Built : Correlations → Prop
  | collect (pairs : List (String × Value)) : Built (ofPairs pairs)
  | insert {c : Correlations} (h : Built c) (name : String) (v : Value) : Built (c.insert name v)
  | erase {c : Correlations} (h : Built c) (name : String) : Built (c.erase name)

variable {c : Correlations} {name : String} {v : Value} {pairs : List (String × Value)}

theorem insertAll_cons (c : Correlations) (name : String) (v : Value)
    (pairs : List (String × Value)) :
    c.insertAll ((name, v) :: pairs) = (c.insert name v).insertAll pairs := rfl

theorem insertAll_append (c : Correlations) (first second : List (String × Value)) :
    c.insertAll (first ++ second) = (c.insertAll first).insertAll second := List.foldl_append

theorem entries_insert_of_not_mem (h : name ∉ c.names) (v : Value) :
    (c.insert name v).entries = c.entries ++ [(name, v)] := by
  obtain ⟨entries⟩ := c
  simp only [insert, exchange, names] at h ⊢
  induction entries with
  | nil => rfl
  | cons e rest ih =>
    obtain ⟨other, w⟩ := e
    rw [List.map_cons, List.mem_cons, not_or] at h
    simp only [bindEntry, if_neg (Ne.symm h.1), List.cons_append]
    exact congrArg ((other, w) :: ·) (ih h.2)

theorem names_insert_of_mem (h : name ∈ c.names) (v : Value) :
    (c.insert name v).names = c.names := by
  obtain ⟨entries⟩ := c
  simp only [insert, exchange, names] at h ⊢
  induction entries with
  | nil => cases h
  | cons e rest ih =>
    obtain ⟨other, w⟩ := e
    by_cases found : other = name
    · subst found
      simp only [bindEntry, ↓reduceIte, List.map_cons]
    · have later : name ∈ rest.map (·.1) := (List.mem_cons.1 h).resolve_left (Ne.symm found)
      simp only [bindEntry, if_neg found, List.map_cons]
      exact congrArg (other :: ·) (ih later)

theorem names_insert (c : Correlations) (name : String) (v : Value) :
    (c.insert name v).names = if name ∈ c.names then c.names else c.names ++ [name] := by
  by_cases h : name ∈ c.names
  · rw [if_pos h, names_insert_of_mem h]
  · rw [if_neg h, names, entries_insert_of_not_mem h, List.map_append]
    rfl

theorem names_erase (c : Correlations) (name : String) :
    (c.erase name).names = c.names.erase name := by
  obtain ⟨entries⟩ := c
  simp only [erase, take, names]
  induction entries with
  | nil => rfl
  | cons e rest ih =>
    obtain ⟨other, w⟩ := e
    by_cases found : other = name
    · subst found
      simp only [dropEntry, ↓reduceIte, List.map_cons, List.erase_cons_head]
    · rw [List.map_cons, List.erase_cons_tail (by simpa using found)]
      simp only [dropEntry, if_neg found, List.map_cons]
      exact congrArg (other :: ·) ih

theorem nodup_names_insert (h : c.names.Nodup) (name : String) (v : Value) :
    (c.insert name v).names.Nodup := by
  rw [names_insert]
  split
  next => exact h
  next fresh =>
    rw [List.nodup_append_comm]
    exact List.nodup_cons.2 ⟨fresh, h⟩

theorem nodup_names_insertAll (h : c.names.Nodup) (pairs : List (String × Value)) :
    (c.insertAll pairs).names.Nodup := by
  induction pairs generalizing c with
  | nil => exact h
  | cons e pairs ih => exact ih (nodup_names_insert h e.1 e.2)

/-- The new names stand behind the old ones, in the order in which each comes first. -/
theorem names_insertAll (c : Correlations) (pairs : List (String × Value)) :
    (c.insertAll pairs).names =
      c.names ++ ((pairs.map (·.1)).filter (· ∉ c.names)).eraseDups := by
  induction pairs generalizing c with
  | nil => exact (List.append_nil _).symm
  | cons e pairs ih =>
    obtain ⟨name, v⟩ := e
    rw [insertAll_cons, ih, names_insert, List.map_cons]
    by_cases known : name ∈ c.names
    · rw [if_pos known, List.filter_cons_of_neg (by simpa using known)]
    · have later (other : String) :
          decide (other ∉ c.names ++ [name]) = (!other == name && decide (other ∉ c.names)) := by
        rw [Bool.eq_iff_iff]
        simp [and_comm]
      rw [if_neg known, List.filter_cons_of_pos (by simpa using known), List.eraseDups_cons,
        List.filter_filter, List.append_assoc, List.singleton_append]
      simp only [later]

theorem Built.nodup_names (h : c.Built) : c.names.Nodup := by
  induction h with
  | collect pairs => exact nodup_names_insertAll (c := empty) List.nodup_nil pairs
  | insert _ name v ih => exact nodup_names_insert ih name v
  | erase _ name ih =>
    rw [names_erase]
    exact ih.erase name

theorem entries_insertAll (h : (c.names ++ pairs.map (·.1)).Nodup) :
    (c.insertAll pairs).entries = c.entries ++ pairs := by
  induction pairs generalizing c with
  | nil => exact (List.append_nil _).symm
  | cons e pairs ih =>
    obtain ⟨name, v⟩ := e
    have fresh : name ∉ c.names := by
      intro hc
      exact (List.disjoint_of_nodup_append h) hc (by simp)
    have entries := entries_insert_of_not_mem fresh v
    have names : (c.insert name v).names = c.names ++ [name] := by
      rw [names_insert, if_neg fresh]
    rw [insertAll_cons, ih (by simpa [names] using h), entries, List.append_assoc]
    rfl

theorem get?_cons (name key : String) (v : Value) (pairs : List (String × Value)) :
    (⟨(name, v) :: pairs⟩ : Correlations).get? key =
      if name = key then some v else (⟨pairs⟩ : Correlations).get? key := by
  by_cases h : name = key <;> simp [get?, h]

theorem find?_eq_none_iff {α : Type} {fields : List (String × α)} :
    fields.find? (·.1 = name) = none ↔ name ∉ fields.map (·.1) := by
  rw [List.find?_eq_none, List.mem_map]
  constructor
  · rintro h ⟨e, he, rfl⟩
    exact h e he (decide_eq_true rfl)
  · intro h e he found
    exact h ⟨e, he, of_decide_eq_true found⟩

theorem get?_eq_none_iff : c.get? name = none ↔ name ∉ c.names := by
  rw [get?, Option.map_eq_none_iff, find?_eq_none_iff]
  rfl

theorem get?_insertAll (h : (pairs.map (·.1)).Nodup) (c : Correlations) (key : String) :
    (c.insertAll pairs).get? key = ((⟨pairs⟩ : Correlations).get? key).or (c.get? key) := by
  induction pairs generalizing c with
  | nil => rfl
  | cons e pairs ih =>
    obtain ⟨name, v⟩ := e
    obtain ⟨fresh, rest⟩ := List.nodup_cons.1 h
    rw [insertAll_cons, ih rest, get?_insert, get?_cons]
    by_cases hk : name = key
    · subst hk
      have absent := (get?_eq_none_iff (c := ⟨pairs⟩)).2 fresh
      simp [absent]
    · simp only [if_neg hk]

theorem get?_insertAll_latest (c : Correlations) (pairs : List (String × Value)) (key : String) :
    (c.insertAll pairs).get? key = (pairs.reverse.lookup key).or (c.get? key) := by
  induction pairs generalizing c with
  | nil => rfl
  | cons e pairs ih =>
    obtain ⟨name, v⟩ := e
    rw [insertAll_cons, ih, get?_insert, lookup_reverse_cons, Option.or_assoc]
    by_cases h : name = key <;> simp [h]

/-- Correlations that hold no name twice are told by their names and what is found under them. -/
theorem entries_eq_filterMap (h : c.names.Nodup) :
    c.entries = c.names.filterMap fun name => (c.get? name).map (name, ·) := by
  obtain ⟨entries⟩ := c
  induction entries with
  | nil => rfl
  | cons e rest ih =>
    obtain ⟨name, v⟩ := e
    obtain ⟨fresh, distinct⟩ := List.nodup_cons.1 h
    have later : ∀ other ∈ rest.map (·.1),
        ((⟨(name, v) :: rest⟩ : Correlations).get? other).map (other, ·) =
          ((⟨rest⟩ : Correlations).get? other).map (other, ·) := by
      intro other ho
      have differ : name ≠ other := fun same => fresh (same ▸ ho)
      rw [get?_cons, if_neg differ]
    have first : ((⟨(name, v) :: rest⟩ : Correlations).get? name).map (name, ·) =
        some (name, v) := by
      rw [get?_cons, if_pos rfl]
      rfl
    have below : rest = (rest.map (·.1)).filterMap
        fun other => ((⟨rest⟩ : Correlations).get? other).map (other, ·) := ih distinct
    simp only [names, List.map_cons]
    rw [List.filterMap_cons]
    simp only [first]
    rw [List.filterMap_congr later, ← below]

/-- What was bound keeps its place and takes the last value that comes for its name, and the new
names stand behind it, each with its last value. -/
theorem entries_insertAll_latest (h : c.names.Nodup) (pairs : List (String × Value)) :
    (c.insertAll pairs).entries =
      c.entries.map (fun (name, v) => (name, (pairs.reverse.lookup name).getD v)) ++
        ((pairs.map (·.1)).filter (· ∉ c.names)).eraseDups.filterMap fun name =>
          (pairs.reverse.lookup name).map (name, ·) := by
  rw [entries_eq_filterMap (nodup_names_insertAll h pairs), names_insertAll,
    List.filterMap_append]
  -- What is found under an old name has a value to fall back on, under a new one it has not.
  congr 1
  · rw [entries_eq_filterMap h, List.map_filterMap]
    apply List.filterMap_congr
    intro name hn
    obtain ⟨v, hv⟩ : ∃ v, c.get? name = some v := by
      rw [← Option.ne_none_iff_exists', Ne, get?_eq_none_iff, not_not]
      exact hn
    rw [get?_insertAll_latest, hv, Option.or_some]
    rfl
  · apply List.filterMap_congr
    intro name hn
    have absent : c.get? name = none := by
      rw [get?_eq_none_iff]
      simpa using (List.mem_filter.1 (List.mem_eraseDups.1 hn)).2
    rw [get?_insertAll_latest, absent, Option.or_none]

end Correlations
end Ambient
