import Ambient.Baggage

namespace Ambient.Context

open Json (Value)

/-- A change to what a context carries. A value can be bound by hand under every key, also under those
of the correlations and of the span. -/
inductive Load where
  | set (name : String) (v : Value)
  | remove (name : String)
  | clear
  | replace (b : Correlations)
  | value (key : String) (d : Datum)
  | span (s : SpanContext)

namespace Load

def apply (c : Context) : Load → StateM Supply Context
  | .set name v => c.setCorrelation name v
  | .remove name => c.removeCorrelation name
  | .clear => c.clearCorrelations
  | .replace b => c.withCorrelations b
  | .value key d => c.withValue key d
  | .span s => c.withSpan s

def key : Load → String
  | .value key _ => key
  | .span _ => spanKey
  | .set .. | .remove _ | .clear | .replace _ => correlationsKey

def onCorrelations (b : Correlations) : Load → Correlations
  | .set name v => b.insert name v
  | .remove name => b.erase name
  | .clear => ∅
  | .replace b' => b'
  | .value key d => if key = correlationsKey then (d.as? .correlations).getD ∅ else b
  | .span _ => b

/-- The span that a change sets, if it sets one. A value of another kind sets none that is valid. -/
def span? : Load → Option SpanContext
  | .span s => some s
  | .value key d => if key = spanKey then some ((d.as? .span).getD .invalid) else none
  | _ => none

def datum (b : Correlations) : Load → Datum
  | .value _ d => d
  | .span s => ⟨.span, s⟩
  | x => ⟨.correlations, x.onCorrelations b⟩

end Load

def carry (c : Context) (loads : List Load) : StateM Supply Context := loads.foldlM Load.apply c

variable {c : Context} {s : Supply}

theorem get?_withValue (c : Context) (key other : String) (d : Datum) (k : Kind) (s : Supply) :
    (c.withValue key d s).1.get? other k = if key = other then d.as? k else c.get? other k := by
  have found : (c.withValue key d s).1.shared? other =
      if key = other then some ⟨s.next, d⟩ else c.shared? other :=
    shared?_withShared c key other _
  rw [get?, found]
  split
  next => rfl
  next => rfl

theorem correlation?_eq (c : Context) (name : String) :
    c.correlation? name = c.correlations.get? name := by
  rw [correlation?, correlations]
  cases c.get? correlationsKey .correlations with
  | none => rfl
  | some b => rfl

theorem Load.apply_eq (c : Context) (x : Load) :
    x.apply c = c.withValue x.key (x.datum c.correlations) := by
  cases x with
  | set name v | remove name | clear | replace b | value key d | span s => rfl

theorem correlations_apply (c : Context) (x : Load) (s : Supply) :
    (x.apply c s).1.correlations = x.onCorrelations c.correlations := by
  have other : spanKey ≠ correlationsKey := by decide
  rw [x.apply_eq, correlations, get?_withValue]
  cases x with
  | set name v | remove name | clear | replace b =>
    rw [Load.key, if_pos rfl]
    exact congrArg (·.getD ∅) (Datum.as?_mk .correlations _)
  | span s =>
    rw [Load.key, if_neg other]
    rfl
  | value key d =>
    rw [Load.key, Load.onCorrelations]
    split
    next => rfl
    next => rfl

theorem span_apply (c : Context) (x : Load) (s : Supply) :
    (x.apply c s).1.span = x.span?.getD c.span := by
  have other : correlationsKey ≠ spanKey := by decide
  rw [x.apply_eq, span, get?_withValue]
  cases x with
  | set name v | remove name | clear | replace b =>
    rw [Load.key, if_neg other]
    rfl
  | span s =>
    rw [Load.key, if_pos rfl]
    exact congrArg (·.getD .invalid) (Datum.as?_mk .span s)
  | value key d =>
    rw [Load.key, Load.span?]
    split
    next => rfl
    next => rfl

theorem shared?_apply (c : Context) {x : Load} {key : String} (other : x.key ≠ key) (s : Supply) :
    (x.apply c s).1.shared? key = c.shared? key := by
  rw [x.apply_eq]
  exact (shared?_withShared c x.key key _).trans (if_neg other)

theorem carry_cons (c : Context) (x : Load) (loads : List Load) (s : Supply) :
    c.carry (x :: loads) s = (x.apply c s).1.carry loads (x.apply c s).2 := rfl

theorem correlations_carry (c : Context) (loads : List Load) (s : Supply) :
    (c.carry loads s).1.correlations = loads.foldl Load.onCorrelations c.correlations := by
  induction loads generalizing c s with
  | nil => rfl
  | cons x loads ih => rw [carry_cons, ih, correlations_apply, List.foldl_cons]

theorem span_carry (c : Context) (loads : List Load) (s : Supply) :
    (c.carry loads s).1.span = (loads.filterMap Load.span?).getLast?.getD c.span := by
  induction loads generalizing c s with
  | nil => rfl
  | cons x loads ih =>
    rw [carry_cons, ih, span_apply, List.filterMap_cons]
    cases x.span? with
    | none => rfl
    | some own => simp [List.getLast?_cons]

theorem shared?_carry (c : Context) {loads : List Load} {key : String}
    (others : ∀ x ∈ loads, x.key ≠ key) (s : Supply) :
    (c.carry loads s).1.shared? key = c.shared? key := by
  induction loads generalizing c s with
  | nil => rfl
  | cons x loads ih =>
    rw [List.forall_mem_cons] at others
    rw [carry_cons, ih _ others.2, shared?_apply c others.1]

/-- After any changes the correlations are what the changes make of those found at first, and each is
found by name as in them. The span is the last that was set, or the one found at first. A key that no
change writes is bound to the very same shared value. -/
theorem read_carry (c : Context) (loads : List Load) (s : Supply) :
    let d := (c.carry loads s).1
    d.correlations = loads.foldl Load.onCorrelations c.correlations ∧
      (∀ name, d.correlation? name = d.correlations.get? name) ∧
      d.span = (loads.filterMap Load.span?).getLast?.getD c.span ∧
      ∀ key, (∀ x ∈ loads, x.key ≠ key) → d.shared? key = c.shared? key := by
  intro d
  refine ⟨correlations_carry c loads s, d.correlation?_eq, span_carry c loads s, ?_⟩
  intro key others
  exact shared?_carry c others s

theorem read_carry_of_other_kind :
    let mark : Shared := ⟨0, .text, "mark"⟩
    let c := (((∅ : Context).withShared correlationsKey mark).withShared spanKey mark).withShared
      "other" mark
    let loads : List Load := [.set "a" .null, .set "b" (.bool true), .remove "a",
      .value "more" ⟨.unit, ()⟩, .set "b" .null]
    let d := (c.carry loads ⟨1⟩).1
    c.correlations.entries = [] ∧ d.correlations.entries = [("b", .null)] ∧
      d.correlation? "b" = some .null ∧ d.span = .invalid ∧ (∀ x ∈ loads, x.key ≠ "other") ∧
      d.shared? "other" = some mark := by
  intro mark c loads d
  obtain ⟨correlations, named, span, kept⟩ := read_carry c loads ⟨1⟩
  have empty : c.correlations = ∅ := rfl
  have held : d.correlations.entries = [("b", .null)] := by
    rw [correlations, empty]
    rfl
  have others : ∀ x ∈ loads, x.key ≠ "other" := by
    simp [loads, Load.key, correlationsKey]
  refine ⟨by rw [empty]; rfl, held, ?_, ?_, others, ?_⟩
  · rw [named, correlations, empty]
    rfl
  · rw [span]
    rfl
  · rw [kept "other" others]
    rfl

end Ambient.Context
