import Ambient.Context

namespace Ambient.Context

def correlationsKey : String := "correlation-context"

def spanKey : String := "span-context"

def correlations (c : Context) : Correlations := (c.get? correlationsKey .correlations).getD ∅

def correlation? (c : Context) (name : String) : Option Json.Value :=
  (c.get? correlationsKey .correlations).bind (·.get? name)

def withCorrelations (c : Context) (b : Correlations) : StateM Supply Context :=
  c.withValue correlationsKey ⟨.correlations, b⟩

def setCorrelation (c : Context) (name : String) (v : Json.Value) : StateM Supply Context :=
  c.withCorrelations (c.correlations.insert name v)

def removeCorrelation (c : Context) (name : String) : StateM Supply Context :=
  c.withCorrelations (c.correlations.erase name)

def clearCorrelations (c : Context) : StateM Supply Context := c.withCorrelations ∅

def span (c : Context) : SpanContext := (c.get? spanKey .span).getD .invalid

def withSpan (c : Context) (s : SpanContext) : StateM Supply Context :=
  c.withValue spanKey ⟨.span, s⟩

@[simp] theorem correlations_withCorrelations (c : Context) (b : Correlations) (s : Supply) :
    (c.withCorrelations b s).1.correlations = b := by
  have found : (c.withCorrelations b s).1.shared? correlationsKey =
      some ⟨s.next, .correlations, b⟩ := shared?_withShared_self c correlationsKey _
  simp [correlations, get?, found]

end Ambient.Context
