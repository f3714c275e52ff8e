import Std.Data.ExtTreeMap
import Ambient.Datum
import Ambient.Error
import Ambient.Text.Literal

namespace Ambient

/-- A value together with its identity. -/
structure Shared where
  id : Nat
  datum : Datum

/-- The identities given out so far are those below `next`. -/
structure Supply where
  next : Nat

def Supply.start : Supply := ⟨0⟩

def Shared.make (d : Datum) : StateM Supply Shared := fun s => (⟨s.next, d⟩, ⟨s.next + 1⟩)

structure Context where
  entries : Std.ExtTreeMap String Shared compare

namespace Context

def empty : Context := ⟨∅⟩

instance : EmptyCollection Context := ⟨empty⟩
instance : Inhabited Context := ⟨empty⟩

def shared? (c : Context) (key : String) : Option Shared := c.entries[key]?

def get? (c : Context) (key : String) (k : Kind) : Option k.Carrier :=
  (c.shared? key).bind (·.datum.as? k)

def contains (c : Context) (key : String) : Bool := c.entries.contains key

def size (c : Context) : Nat := c.entries.size

def isEmpty (c : Context) : Bool := c.entries.isEmpty

def keys (c : Context) : List String := c.entries.keys

def toList (c : Context) : List (String × Shared) := c.entries.toList

def withShared (c : Context) (key : String) (v : Shared) : Context := ⟨c.entries.insert key v⟩

def withValue (c : Context) (key : String) (d : Datum) : StateM Supply Context := do
  return c.withShared key (← Shared.make d)

def withValues (c : Context) (pairs : List (String × Datum)) : StateM Supply Context :=
  pairs.foldlM (fun c (key, d) => c.withValue key d) c

/-- The same keys, bound to identical shared values. -/
def same (a b : Context) : Bool :=
  a.size == b.size &&
    a.toList.all fun (key, v) => match b.shared? key with
      | some w => v.id == w.id
      | none => false

instance : BEq Context := ⟨same⟩

def display (c : Context) : List Char :=
  "Context \x7b keys: [".toList ++
    [',', ' '].intercalate (c.keys.map fun key => Text.literal key.toList) ++ "] \x7d".toList

def rejected (operation : String) (key : Option String) : ContextError :=
  .immutability ⟨operation, key⟩

/-- A context cannot be changed in place: this and the two below always fail. -/
def insert (_ : Context) (key : String) (_ : Datum) : Except ContextError Context :=
  .error (rejected "insert" (some key))

def remove (_ : Context) (key : String) : Except ContextError Context :=
  .error (rejected "remove" (some key))

def clear (_ : Context) : Except ContextError Context := .error (rejected "clear" none)

@[ext] theorem ext {a b : Context} (h : ∀ key, a.shared? key = b.shared? key) : a = b := by
  obtain ⟨a⟩ := a
  obtain ⟨b⟩ := b
  exact congrArg mk (Std.ExtTreeMap.ext_getElem? fun {key} => h key)

@[simp] theorem shared?_empty (key : String) : (∅ : Context).shared? key = none :=
  Std.ExtTreeMap.getElem?_empty

theorem shared?_withShared (c : Context) (key other : String) (v : Shared) :
    (c.withShared key v).shared? other = if key = other then some v else c.shared? other := by
  simp only [withShared, shared?, Std.ExtTreeMap.getElem?_insert]
  split <;> simp_all

@[simp] theorem shared?_withShared_self (c : Context) (key : String) (v : Shared) :
    (c.withShared key v).shared? key = some v := by
  simp [shared?_withShared]

end Context
end Ambient
