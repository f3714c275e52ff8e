import Ambient.Correlations
import Ambient.SpanContext

namespace Ambient

/-- A context can hold a value of any type, of which these ten are the ones that are read and written
by name. What is said of contexts holds for any further kind as well: nothing there depends on how
many kinds there are or which. -/
inductive Kind where
  | text | bool | int64 | int32 | nat64 | bytes | json | correlations | span | unit
deriving DecidableEq

@[reducible] def Kind.Carrier : Kind → Type
  | .text => String
  | .bool => Bool
  | .int64 => Int64
  | .int32 => Int32
  | .nat64 => UInt64
  | .bytes => List UInt8
  | .json => Json.Value
  | .correlations => Correlations
  | .span => SpanContext
  | .unit => Unit

structure Datum where
  kind : Kind
  value : kind.Carrier

namespace Datum

def as? (d : Datum) (k : Kind) : Option k.Carrier :=
  if h : d.kind = k then some (h ▸ d.value) else none

@[simp] theorem as?_mk (k : Kind) (v : k.Carrier) : (Datum.mk k v).as? k = some v := by
  simp [as?]

theorem as?_eq_some_iff {d : Datum} {k : Kind} {v : k.Carrier} :
    d.as? k = some v ↔ d = ⟨k, v⟩ := by
  obtain ⟨kind, value⟩ := d
  constructor
  · intro h
    by_cases hk : kind = k
    · subst hk; simpa using h
    · simp [as?, hk] at h
  · rintro ⟨⟩
    exact as?_mk k v

end Datum
end Ambient
