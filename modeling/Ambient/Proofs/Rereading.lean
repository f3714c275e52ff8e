import Mathlib.Data.List.Induction
import Ambient.Proofs.Reception

namespace Ambient

namespace Correlations

open Json (Value)

variable {c : Correlations} {name other : String} {pairs : List (String × Value)}

theorem insert_insert_self (c : Correlations) (name : String) (v w : Value) :
    (c.insert name v).insert name w = c.insert name w := by
  obtain ⟨entries⟩ := c
  simp only [insert, exchange, mk.injEq]
  induction entries with
  | nil => simp [bindEntry]
  | cons e rest ih =>
    obtain ⟨key, u⟩ := e
    by_cases found : key = name
    · simp only [bindEntry, if_pos found, ↓reduceIte]
    · simp only [bindEntry, if_neg found]
      exact congrArg ((key, u) :: ·) ih

theorem insert_comm (known : other ∈ c.names) (differ : name ≠ other) (v w : Value) :
    (c.insert name v).insert other w = (c.insert other w).insert name v := by
  obtain ⟨entries⟩ := c
  simp only [insert, exchange, names, mk.injEq] at known ⊢
  induction entries with
  | nil => cases known
  | cons e rest ih =>
    obtain ⟨key, u⟩ := e
    by_cases here : key = other
    · subst here
      simp only [bindEntry, if_neg (Ne.symm differ), ↓reduceIte]
    · have later : other ∈ rest.map (·.1) := (List.mem_cons.1 known).resolve_left (Ne.symm here)
      by_cases first : key = name
      · subst first
        simp only [bindEntry, if_neg differ, ↓reduceIte]
      · simp only [bindEntry, if_neg here, if_neg first]
        exact congrArg ((key, u) :: ·) (ih later)

theorem insert_insertAll_insert (known : ∀ e ∈ pairs, e.1 ∈ c.names) (v w : Value) :
    ((c.insert name v).insertAll pairs).insert name w = (c.insertAll pairs).insert name w := by
  induction pairs generalizing c v with
  | nil => exact insert_insert_self c name v w
  | cons e pairs ih =>
    obtain ⟨other, u⟩ := e
    rw [List.forall_mem_cons] at known
    have kept : ∀ e ∈ pairs, e.1 ∈ (c.insert other u).names := by
      rw [names_insert_of_mem known.1]
      exact known.2
    rw [insertAll_cons, insertAll_cons]
    by_cases same : name = other
    · subst same
      rw [insert_insert_self]
    · rw [insert_comm known.1 same, ih kept]

theorem mem_names_insertAll (c : Correlations) {e : String × Value} (h : e ∈ pairs) :
    e.1 ∈ (c.insertAll pairs).names := by
  rw [names_insertAll, List.mem_append, List.mem_eraseDups, List.mem_filter]
  by_cases known : e.1 ∈ c.names
  · exact .inl known
  · exact .inr ⟨List.mem_map_of_mem h, decide_eq_true known⟩

/-- Pairs that are inserted again change nothing, even if a name comes twice among them. -/
theorem insertAll_insertAll_self (c : Correlations) (pairs : List (String × Value)) :
    (c.insertAll pairs).insertAll pairs = c.insertAll pairs := by
  induction pairs using List.reverseRecOn with
  | nil => rfl
  | append_singleton pairs e ih =>
    obtain ⟨name, v⟩ := e
    -- On the second pass the last value is there from the first; the pass brings back the values
    -- before it, and then overwrites them.
    have last (d : Correlations) : d.insertAll (pairs ++ [(name, v)]) =
        (d.insertAll pairs).insert name v := insertAll_append d pairs _
    rw [last, last, insert_insertAll_insert fun e he => mem_names_insertAll c he, ih]

end Correlations

namespace Header

theorem extractTimes_succ (n : Nat) (carrier : Carrier) (base : Context) (supply : Supply) :
    extractTimes (n + 1) carrier base supply =
      extractTimes n carrier (extract carrier base supply).1 (extract carrier base supply).2 := rfl

theorem correlations_extractTimes (n : Nat) (carrier : Carrier) (base : Context)
    (supply : Supply) :
    (extractTimes (n + 1) carrier base supply).1.correlations =
      base.correlations.insertAll (texts (arrived carrier)) := by
  induction n generalizing base supply with
  | zero => exact correlations_extract carrier base supply
  | succ n ih =>
    rw [extractTimes_succ, ih, correlations_extract, Correlations.insertAll_insertAll_self]

theorem shared?_extractTimes (n : Nat) (carrier : Carrier) (base : Context) (supply : Supply)
    {key : String} (other : key ≠ Context.correlationsKey) :
    (extractTimes n carrier base supply).1.shared? key = base.shared? key := by
  induction n generalizing base supply with
  | zero => rfl
  | succ n ih => rw [extractTimes_succ, ih, shared?_extract carrier base supply other]

/-- A carrier that is extracted again and again, each time into what came out before, gives what it gives
at once: the same entries in the same order, whatever names come twice in the header or are bound in
the base, and identical values under all other keys. -/
theorem extractTimes_eq_once (n : Nat) (carrier : Carrier) (base : Context) (supply : Supply) :
    let once := (extract carrier base supply).1
    let repeated := (extractTimes (n + 1) carrier base supply).1
    repeated.correlations = once.correlations ∧
      ∀ key, key ≠ Context.correlationsKey → repeated.shared? key = once.shared? key := by
  intro once repeated
  constructor
  · exact (correlations_extractTimes n carrier base supply).trans
      (correlations_extract carrier base supply).symm
  · intro key other
    exact (shared?_extractTimes (n + 1) carrier base supply other).trans
      (shared?_extract carrier base supply other).symm

theorem extractTimes_eq_once_repeated_names :
    let held : Correlations := ⟨[("a", .null), ("b", .bool true), ("a", .text "old")]⟩
    let tenant : Shared := ⟨0, .text, "acme"⟩
    let base := (((∅ : Context).withShared "tenant" tenant).withCorrelations held ⟨1⟩).1
    let carrier : Carrier := .single (.ofList [(fieldName, "a=1,c=2,a=3,skipped,c=4")])
    let repeated := (extractTimes 3 carrier base ⟨2⟩).1
    "tenant" ≠ Context.correlationsKey ∧
      repeated.correlations.entries =
        [("a", .text "3"), ("b", .bool true), ("a", .text "old"), ("c", .text "4")] ∧
      repeated.shared? "tenant" = some tenant := by
  intro held tenant base carrier repeated
  have other : "tenant" ≠ Context.correlationsKey := by decide
  have own : base.correlations = held := Context.correlations_withCorrelations _ _ _
  have came : arrived carrier = [("a", "1"), ("c", "2"), ("a", "3"), ("c", "4")] := rfl
  obtain ⟨correlations, shared⟩ := extractTimes_eq_once 2 carrier base ⟨2⟩
  refine ⟨other, ?_, ?_⟩
  · rw [correlations, correlations_extract, came, own]
    rfl
  · rw [shared "tenant" other, shared?_extract carrier base ⟨2⟩ other]
    rfl

end Header
end Ambient
