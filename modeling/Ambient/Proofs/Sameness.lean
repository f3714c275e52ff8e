import Mathlib.Data.List.Induction
import Mathlib.Data.List.Perm.Subperm
import Ambient.Proofs.Extension
import Ambient.Proofs.Identity

namespace Ambient

namespace Context

variable {a b c : Context} {key : String} {v : Shared} {ledger : List Datum}

theorem mem_keys_of_size_eq (size : a.size = b.size) (subset : a.keys ⊆ b.keys)
    (h : key ∈ b.keys) : key ∈ a.keys := by
  have counted : b.keys.length ≤ a.keys.length := by
    rw [length_keys, length_keys]
    exact Nat.le_of_eq size.symm
  have perm : a.keys.Perm b.keys := (a.nodup_keys.subperm subset).perm_of_length_le counted
  exact perm.mem_iff.2 h

theorem size_eq_of_mem_keys_iff (h : ∀ key, key ∈ a.keys ↔ key ∈ b.keys) : a.size = b.size := by
  rw [← length_keys, ← length_keys]
  exact ((List.perm_ext_iff_of_nodup a.nodup_keys b.nodup_keys).2 h).length_eq

theorem same_iff_ids :
    (a == b) = true ↔ ∀ key, (a.shared? key).map (·.id) = (b.shared? key).map (·.id) := by
  rw [same_iff]
  constructor
  · rintro ⟨size, identical⟩ key
    cases ha : a.shared? key with
    | some v =>
      obtain ⟨w, hb, id⟩ := identical key v ha
      rw [hb, Option.map_some, Option.map_some, id]
    | none =>
      have subset : a.keys ⊆ b.keys := by
        intro other h
        obtain ⟨v, hv⟩ := Option.isSome_iff_exists.1 (mem_keys_iff.1 h)
        obtain ⟨w, hw, -⟩ := identical other v hv
        rw [mem_keys_iff, hw]
        rfl
      have absent : key ∉ b.keys := by
        intro h
        have present := mem_keys_iff.1 (mem_keys_of_size_eq size subset h)
        rw [ha] at present
        cases present
      rw [mem_keys_iff, Option.not_isSome_iff_eq_none] at absent
      rw [absent]
  · intro ids
    constructor
    · apply size_eq_of_mem_keys_iff
      intro key
      rw [mem_keys_iff, mem_keys_iff, ← Option.isSome_map (f := (·.id)), ids, Option.isSome_map]
    · intro key v hv
      have found := ids key
      rw [hv, Option.map_some] at found
      obtain ⟨w, hw, id⟩ := Option.map_eq_some_iff.1 found.symm
      exact ⟨w, hw, id.symm⟩

theorem equivalence_same : Equivalence fun a b : Context => (a == b) = true := by
  refine ⟨same_self, ?_, ?_⟩
  · intro a b h
    rw [same_iff_ids] at h ⊢
    exact fun key => (h key).symm
  · intro a b c h h'
    rw [same_iff_ids] at h h' ⊢
    exact fun key => (h key).trans (h' key)

theorem same_withAll (h : (a == b) = true) {first second : List (String × Shared)}
    (last : ∀ key, first.reverse.lookup key = second.reverse.lookup key) :
    (a.withAll first == b.withAll second) = true := by
  rw [same_iff_ids] at h ⊢
  intro key
  rw [shared?_withAll, shared?_withAll, last]
  cases second.reverse.lookup key with
  | none => exact h key
  | some v => rfl

theorem Recorded.same_iff (ha : a.Recorded ledger) (hb : b.Recorded ledger) :
    (a == b) = true ↔ ∀ key, a.shared? key = b.shared? key := by
  rw [same_iff_ids]
  apply forall_congr'
  intro key
  constructor
  · intro ids
    cases va : a.shared? key with
    | none =>
      rw [va] at ids
      exact (Option.map_eq_none_iff.1 ids.symm).symm
    | some v =>
      rw [va, Option.map_some] at ids
      obtain ⟨w, vb, id⟩ := Option.map_eq_some_iff.1 ids.symm
      rw [vb, (hb key w vb).eq_of_id (ha key v va) id]
  · intro same
    rw [same]

end Context

namespace Workbook

/-- The context was there under some name at some time in the course of the steps. -/
def Seen (steps : List Step) (c : Context) : Prop :=
  ∃ earlier name, earlier <+: steps ∧ (blank.after earlier).context name = c

theorem exists_ledger (steps : List Step) :
    ∃ ledger, (blank.after steps).Recorded ledger ∧ ∀ c, Seen steps c → c.Recorded ledger := by
  induction steps using List.reverseRecOn with
  | nil =>
    refine ⟨[], .blank, ?_⟩
    rintro c ⟨earlier, name, begun, rfl⟩
    obtain rfl := List.prefix_nil.1 begun
    exact Recorded.blank.contexts name
  | append_singleton steps what ih =>
    obtain ⟨ledger, recorded, seen⟩ := ih
    obtain ⟨more, recorded'⟩ := recorded.step what
    have last : blank.after (steps ++ [what]) = ((blank.after steps).step what).2 :=
      List.foldl_concat ..
    rw [← last] at recorded'
    refine ⟨ledger ++ more, recorded', ?_⟩
    rintro c ⟨earlier, name, begun, rfl⟩
    rcases List.prefix_concat_iff.1 begun with rfl | before
    · exact recorded'.contexts name
    · exact (seen _ ⟨earlier, name, before, rfl⟩).append more

/-- Contexts that were there at any times while a workbook was written are the same if and only if
each key is unbound in both or bound to the very same shared value. The comparison is an equivalence,
tells nothing of the order in which keys were bound, and is kept where both sides bind a key to one
shared value. A context that binds a key to a new value is the same as none that there was before, even
if the key was bound to an equal value. -/
theorem same_iff_identical (steps : List Step) :
    (∀ a b, Seen steps a → Seen steps b →
        ((a == b) = true ↔ ∀ key, a.shared? key = b.shared? key)) ∧
      Equivalence (fun a b : Context => (a == b) = true) ∧
      (∀ (a b : Context) (first second : List (String × Shared)), (a == b) = true →
        (∀ key, first.reverse.lookup key = second.reverse.lookup key) →
          (a.withAll first == b.withAll second) = true) ∧
      (∀ (a b : Context) (key : String) (v : Shared), (a == b) = true →
        (a.withShared key v == b.withShared key v) = true) ∧
      ∀ (a b : Context) (key : String) (d : Datum), Seen steps b →
        ((a.withValue key d (blank.after steps).supply).1 == b) = false := by
  obtain ⟨ledger, recorded, seen⟩ := exists_ledger steps
  refine ⟨?_, Context.equivalence_same, ?_, ?_, ?_⟩
  · intro a b ha hb
    exact (seen a ha).same_iff (seen b hb)
  · intro a b first second same last
    exact Context.same_withAll same last
  · intro a b key v same
    have once : (a.withAll [(key, v)] == b.withAll [(key, v)]) = true :=
      Context.same_withAll same fun _ => rfl
    exact once
  · intro a b key d hb
    have within := (seen b hb).within recorded.next
    exact within.not_same (Context.shared?_withShared_self a key _) (Nat.le_refl _)

theorem same_iff_identical_bound_anew :
    let unit : Datum := ⟨.unit, ()⟩
    let steps : List Step := [.derive none (.value "k" unit) "a", .derive (some "a") .copy "b"]
    let w := blank.after steps
    let a := w.context "a"
    let b := w.context "b"
    let c := (a.withValue "k" unit w.supply).1
    let v : Shared := ⟨0, unit⟩
    let u : Shared := ⟨1, unit⟩
    Seen steps a ∧ Seen steps b ∧ (a == b) = true ∧
      (a.withAll [("x", v), ("y", u)] == b.withAll [("y", u), ("x", v)]) = true ∧
      (a.withShared "k" u == b.withShared "k" u) = true ∧
      (c.shared? "k").map (·.datum) = (a.shared? "k").map (·.datum) ∧ (c == a) = false := by
  intro unit steps w a b c v u
  obtain ⟨identical, -, reordered, derived, anew⟩ := same_iff_identical steps
  have seen (name : String) : Seen steps (w.context name) := ⟨steps, name, List.prefix_refl _, rfl⟩
  have same : (a == b) = true := (identical a b (seen "a") (seen "b")).2 fun _ => rfl
  have last : ∀ key, [("x", v), ("y", u)].reverse.lookup key =
      [("y", u), ("x", v)].reverse.lookup key := by
    intro key
    simp only [lookup_reverse_cons]
    by_cases x : "x" = key
    · subst x
      rfl
    · simp [x]
  refine ⟨seen "a", seen "b", same, reordered a b _ _ same last, derived a b _ _ same, ?_,
    anew a a _ _ (seen "a")⟩
  rfl

end Workbook
end Ambient
