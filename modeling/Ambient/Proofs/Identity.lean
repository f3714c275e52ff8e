import Ambient.Workbook

namespace Ambient

/-- The value is the one that was made under its identity. -/
def Shared.Recorded (v : Shared) (ledger : List Datum) : Prop := ledger[v.id]? = some v.datum

namespace Shared.Recorded

variable {v w : Shared} {ledger : List Datum}

theorem lt (h : v.Recorded ledger) : v.id < ledger.length := (List.getElem?_eq_some_iff.1 h).1

theorem append (h : v.Recorded ledger) (more : List Datum) : v.Recorded (ledger ++ more) :=
  (List.getElem?_append_left h.lt).trans h

theorem concat (ledger : List Datum) (d : Datum) :
    (⟨ledger.length, d⟩ : Shared).Recorded (ledger ++ [d]) := List.getElem?_concat_length

theorem eq_of_id (h : v.Recorded ledger) (h' : w.Recorded ledger) (same : v.id = w.id) : v = w := by
  obtain ⟨id, d⟩ := v
  obtain ⟨id', d'⟩ := w
  obtain rfl : id = id' := same
  obtain rfl : d = d' := Option.some.inj (h.symm.trans h')
  rfl

end Shared.Recorded

namespace Context

/-- Every identity in the context was given out before. -/
def Within (c : Context) (s : Supply) : Prop := ∀ key v, c.shared? key = some v → v.id < s.next

def Recorded (c : Context) (ledger : List Datum) : Prop :=
  ∀ key v, c.shared? key = some v → v.Recorded ledger

variable {a b c : Context} {s : Supply} {key : String} {v : Shared} {ledger : List Datum}

theorem same_iff :
    (a == b) = true ↔ a.size = b.size ∧
      ∀ key v, a.shared? key = some v → ∃ w, b.shared? key = some w ∧ v.id = w.id := by
  have entry (key : String) (v : Shared) : (key, v) ∈ a.toList ↔ a.shared? key = some v :=
    Std.ExtTreeMap.mem_toList_iff_getElem?_eq_some
  have unfolded : (a == b) = same a b := rfl
  rw [unfolded, same, Bool.and_eq_true, beq_iff_eq, List.all_eq_true, Prod.forall]
  simp only [entry]
  apply and_congr_right'
  apply forall₃_congr
  intro key v found
  cases b.shared? key with
  | none => simp
  | some w => simp

theorem same_self (c : Context) : (c == c) = true := by
  rw [same_iff]
  constructor
  · rfl
  · intro key v found
    exact ⟨v, found, rfl⟩

theorem Within.not_same (h : b.Within s) (found : a.shared? key = some v)
    (newer : s.next ≤ v.id) : (a == b) = false := by
  rw [Bool.eq_false_iff, Ne, same_iff]
  rintro ⟨-, identical⟩
  obtain ⟨w, known, id⟩ := identical key v found
  have := h key w known
  omega

theorem Within.same_iff_left (h : b.Within s) {left : Prop}
    (work : left ∧ a = b ∨ ¬ left ∧ ∃ v, a.shared? key = some v ∧ s.next ≤ v.id) :
    (a == b) = true ↔ left := by
  rcases work with ⟨kept, rfl⟩ | ⟨bound, v, found, newer⟩
  · exact iff_of_true a.same_self kept
  · apply iff_of_false _ bound
    rw [h.not_same found newer]
    exact Bool.false_ne_true

theorem Recorded.within (h : c.Recorded ledger) (next : s.next = ledger.length) : c.Within s := by
  intro key v found
  rw [next]
  exact (h key v found).lt

theorem Recorded.empty (ledger : List Datum) : (∅ : Context).Recorded ledger := by
  intro key v found
  rw [shared?_empty] at found
  cases found

theorem Recorded.append (h : c.Recorded ledger) (more : List Datum) :
    c.Recorded (ledger ++ more) := fun key v found => (h key v found).append more

theorem Recorded.withShared (h : c.Recorded ledger) (made : v.Recorded ledger) (key : String) :
    (c.withShared key v).Recorded ledger := by
  intro other w found
  rw [shared?_withShared] at found
  split at found
  · cases found
    exact made
  · exact h other w found

/-- What is made from the supply that a ledger ends at goes into the ledger. -/
def RecordedMaking (make : StateM Supply Context) (s : Supply) (ledger : List Datum) : Prop :=
  ∃ more, (make s).1.Recorded (ledger ++ more) ∧ (make s).2.next = (ledger ++ more).length

namespace Recorded

theorem made (h : c.Recorded ledger) (next : s.next = ledger.length) :
    RecordedMaking (pure c) s ledger := by
  refine ⟨[], ?_⟩
  rw [List.append_nil]
  exact ⟨h, next⟩

theorem withValue (h : c.Recorded ledger) (next : s.next = ledger.length) (key : String)
    (d : Datum) : RecordedMaking (c.withValue key d) s ledger := by
  refine ⟨[d], ?_, ?_⟩
  · apply (h.append [d]).withShared
    rw [next]
    exact .concat ledger d
  · rw [List.length_append, ← next]
    rfl

theorem withValues (h : c.Recorded ledger) (next : s.next = ledger.length)
    (pairs : List (String × Datum)) : RecordedMaking (c.withValues pairs) s ledger := by
  induction pairs generalizing c s ledger with
  | nil => exact h.made next
  | cons e pairs ih =>
    obtain ⟨first, recorded, next'⟩ := h.withValue next e.1 e.2
    obtain ⟨rest, recorded', next''⟩ := ih recorded next'
    rw [List.append_assoc] at recorded' next''
    exact ⟨first ++ rest, recorded', next''⟩

theorem extract (h : c.Recorded ledger) (next : s.next = ledger.length) (carrier : Carrier) :
    RecordedMaking (Header.extract carrier c) s ledger := by
  rw [Header.extract]
  cases carrier.get? Header.fieldName with
  | none => exact h.made next
  | some header =>
    simp only [Header.extendFrom]
    split
    · exact h.made next
    · split
      · exact h.made next
      · exact h.withValue next _ _

end Recorded

end Context

namespace Workbook

/-- All values that the workbook holds are in the ledger, which ends where its supply goes on. -/
structure Recorded (w : Workbook) (ledger : List Datum) : Prop where
  next : w.supply.next = ledger.length
  contexts : ∀ name, (w.context name).Recorded ledger
  values : ∀ (name : String) (v : Shared), w.values[name]? = some v → v.Recorded ledger

variable {w : Workbook} {ledger : List Datum}

theorem recorded_derive {c : Context} {s : Supply} (h : c.Recorded ledger)
    (next : s.next = ledger.length) (how : Derivation) :
    Context.RecordedMaking (derive c how) s ledger := by
  cases how with
  | copy => exact h.made next
  | value key d => exact h.withValue next key d
  | values pairs => exact h.withValues next pairs
  | fill key count => exact h.withValues next _
  | setCorrelation name v => exact h.withValue next _ _
  | removeCorrelation name => exact h.withValue next _ _
  | clearCorrelations => exact h.withValue next _ _
  | correlations pairs => exact h.withValue next _ _
  | span s => exact h.withValue next _ _
  | extract carrier => exact h.extract next carrier

namespace Recorded

theorem blank : Workbook.blank.Recorded [] := by
  refine ⟨rfl, ?_, ?_⟩
  · intro name
    exact .empty _
  · intro name v found
    simp [Workbook.blank] at found

theorem putContext (h : w.Recorded ledger) {c : Context} {s : Supply} {more : List Datum}
    (recorded : c.Recorded (ledger ++ more)) (next : s.next = (ledger ++ more).length)
    (target : String) :
    (Workbook.putContext { w with supply := s } target c).2.Recorded (ledger ++ more) := by
  refine ⟨next, ?_, ?_⟩
  · intro name
    simp only [Workbook.putContext, context, Std.TreeMap.getD_insert]
    split
    · exact recorded
    · exact (h.contexts name).append more
  · intro name v found
    exact (h.values name v found).append more

theorem putValue (h : w.Recorded ledger) {v : Shared} {s : Supply} {more : List Datum}
    (recorded : v.Recorded (ledger ++ more)) (next : s.next = (ledger ++ more).length)
    (target : String) :
    Recorded { w with values := w.values.insert target v, supply := s } (ledger ++ more) := by
  refine ⟨next, ?_, ?_⟩
  · intro name
    exact (h.contexts name).append more
  · intro name u found
    rw [Std.TreeMap.getElem?_insert] at found
    split at found
    · cases found
      exact recorded
    · exact (h.values name u found).append more

/-- A step adds to the ledger what it makes. -/
theorem step (h : w.Recorded ledger) (what : Step) :
    ∃ more, (w.step what).2.Recorded (ledger ++ more) := by
  have stays : ∃ more, w.Recorded (ledger ++ more) := ⟨[], by rwa [List.append_nil]⟩
  have next : w.supply.next = (ledger ++ []).length := by rw [List.append_nil, h.next]
  cases what with
  | derive source how target =>
    have begun : (source.elim ∅ w.context).Recorded ledger := by
      cases source with
      | none => exact .empty _
      | some name => exact h.contexts name
    obtain ⟨more, recorded, next⟩ := recorded_derive begun h.next how
    exact ⟨more, h.putContext recorded next target⟩
  | bindShared source key value target =>
    simp only [Workbook.step]
    split
    next v found =>
      have bound := (h.contexts source).withShared (h.values value v found) key
      exact ⟨[], h.putContext (bound.append []) next target⟩
    next => exact stays
  | share d target =>
    refine ⟨[d], h.putValue ?_ ?_ target⟩
    · rw [h.next]
      exact .concat ledger d
    · rw [List.length_append, ← h.next]
      rfl
  | takeShared source key target =>
    simp only [Workbook.step]
    split
    next v found => exact ⟨[], h.putValue ((h.contexts source key v found).append []) next target⟩
    next => exact stays
  | sameShared a b =>
    simp only [Workbook.step]
    split <;> exact stays
  | same a b => exact stays
  | ask source query => exact stays

end Recorded

def after (w : Workbook) (steps : List Step) : Workbook :=
  steps.foldl (fun w what => (w.step what).2) w

theorem Recorded.after (h : w.Recorded ledger) (steps : List Step) :
    ∃ more, (w.after steps).Recorded (ledger ++ more) := by
  induction steps generalizing w ledger with
  | nil => exact ⟨[], by rwa [List.append_nil]⟩
  | cons what steps ih =>
    obtain ⟨first, recorded⟩ := h.step what
    obtain ⟨rest, recorded'⟩ := ih recorded
    rw [List.append_assoc] at recorded'
    exact ⟨first ++ rest, recorded'⟩

theorem exists_recorded (steps : List Step) : ∃ ledger, (blank.after steps).Recorded ledger :=
  Recorded.blank.after steps

theorem within_after (steps : List Step) (name : String) :
    ((blank.after steps).context name).Within (blank.after steps).supply := by
  obtain ⟨ledger, recorded⟩ := exists_recorded steps
  exact (recorded.contexts name).within recorded.next

end Workbook
end Ambient
