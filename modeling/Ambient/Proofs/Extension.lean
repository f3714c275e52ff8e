import Ambient.Context
import Ambient.Proofs.Naming

namespace Ambient.Context

/-- A binding that is added to a context: of a new shared value, or of one that exists. -/
inductive Extension where
  | value (key : String) (d : Datum)
  | shared (key : String) (v : Shared)

def Extension.apply (c : Context) : Extension → StateM Supply Context
  | .value key d => c.withValue key d
  | .shared key v => return c.withShared key v

def extend (c : Context) (steps : List Extension) : StateM Supply Context :=
  steps.foldlM Extension.apply c

def withAll (c : Context) (pairs : List (String × Shared)) : Context :=
  pairs.foldl (fun c (key, v) => c.withShared key v) c

/-- What is bound, in order. Values are shared under the identities that come next. -/
def bindings : List Extension → Supply → List (String × Shared)
  | [], _ => []
  | .value key d :: steps, s => (key, ⟨s.next, d⟩) :: bindings steps ⟨s.next + 1⟩
  | .shared key v :: steps, s => (key, v) :: bindings steps s

variable {c : Context} {key : String}

theorem get?_eq_some_iff {k : Kind} {v : k.Carrier} :
    c.get? key k = some v ↔ (c.shared? key).map (·.datum) = some ⟨k, v⟩ := by
  rw [get?, Option.bind_eq_some_iff, Option.map_eq_some_iff]
  simp only [Datum.as?_eq_some_iff]

theorem contains_eq_isSome (c : Context) (key : String) :
    c.contains key = (c.shared? key).isSome :=
  Std.ExtTreeMap.contains_eq_isSome_getElem?

theorem mem_keys_iff : key ∈ c.keys ↔ (c.shared? key).isSome :=
  Std.ExtTreeMap.mem_keys.trans Std.ExtTreeMap.mem_iff_isSome_getElem?

theorem nodup_keys (c : Context) : c.keys.Nodup := Std.ExtTreeMap.nodup_keys

theorem length_keys (c : Context) : c.keys.length = c.size := Std.ExtTreeMap.length_keys

theorem isEmpty_iff : c.isEmpty ↔ ∀ key, c.shared? key = none := by
  have no_entries : c.isEmpty ↔ c.keys = [] := by
    rw [← List.length_eq_zero_iff, length_keys, isEmpty, Std.ExtTreeMap.isEmpty_eq_size_beq_zero,
      beq_iff_eq]
    rfl
  rw [no_entries, List.eq_nil_iff_forall_not_mem]
  apply forall_congr'
  intro key
  rw [mem_keys_iff, Bool.not_eq_true, Option.isSome_eq_false_iff, Option.isNone_iff_eq_none]

theorem shared?_withAll (c : Context) (pairs : List (String × Shared)) (key : String) :
    (c.withAll pairs).shared? key = (pairs.reverse.lookup key).or (c.shared? key) := by
  induction pairs generalizing c with
  | nil => rfl
  | cons e pairs ih =>
    obtain ⟨other, v⟩ := e
    have next : c.withAll ((other, v) :: pairs) = (c.withShared other v).withAll pairs := rfl
    rw [next, ih, lookup_reverse_cons, shared?_withShared, Option.or_assoc]
    by_cases h : other = key <;> simp [h]

theorem extend_eq_withAll (c : Context) (steps : List Extension) (s : Supply) :
    (c.extend steps s).1 = c.withAll (bindings steps s) := by
  induction steps generalizing c s with
  | nil => rfl
  | cons step steps ih =>
    cases step with
    | value key d => exact ih (c.withShared key ⟨s.next, d⟩) ⟨s.next + 1⟩
    | shared key v => exact ih (c.withShared key v) s

theorem shared?_extend (c : Context) (steps : List Extension) (s : Supply) (key : String) :
    (c.extend steps s).1.shared? key =
      ((bindings steps s).reverse.lookup key).or (c.shared? key) := by
  rw [extend_eq_withAll, shared?_withAll]

/-- Every reading of an extended context is told by the last binding of each key, or by the context
before where the key was not bound again. -/
theorem read_extend (c : Context) (steps : List Extension) (s : Supply) :
    let d := (c.extend steps s).1
    let bound := fun key => ((bindings steps s).reverse.lookup key).or (c.shared? key)
    (∀ key, d.shared? key = bound key) ∧
      (∀ key k v, d.get? key k = some v ↔ (bound key).map (·.datum) = some ⟨k, v⟩) ∧
      (∀ key, d.contains key = (bound key).isSome) ∧
      (∀ key, key ∈ d.keys ↔ (bound key).isSome) ∧ d.keys.Nodup ∧ d.size = d.keys.length ∧
      (d.isEmpty ↔ ∀ key, bound key = none) := by
  intro d bound
  have found : ∀ key, d.shared? key = bound key := shared?_extend c steps s
  refine ⟨found, ?_, ?_, ?_, d.nodup_keys, d.length_keys.symm, ?_⟩
  · intro key k v
    rw [get?_eq_some_iff, found]
  · intro key
    rw [contains_eq_isSome, found]
  · intro key
    rw [mem_keys_iff, found]
  · simp only [isEmpty_iff, found]

end Ambient.Context
