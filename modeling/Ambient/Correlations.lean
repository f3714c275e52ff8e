import Ambient.Json.Value
import Ambient.Json.Record

namespace Ambient

structure Correlations where
  entries : List (String × Json.Value)

namespace Correlations

open Json (Value Tree)

/-- Binds `name`: in place where it is bound, at the end where it is not. Also gives the value
bound before. -/
def bindEntry (name : String) (v : Value) :
    List (String × Value) → Option Value × List (String × Value)
  | [] => (none, [(name, v)])
  | (other, w) :: rest =>
    if other = name then (some w, (name, v) :: rest)
    else
      let (old, rest) := bindEntry name v rest
      (old, (other, w) :: rest)

def dropEntry (name : String) : List (String × Value) → Option Value × List (String × Value)
  | [] => (none, [])
  | (other, w) :: rest =>
    if other = name then (some w, rest)
    else
      let (old, rest) := dropEntry name rest
      (old, (other, w) :: rest)

def empty : Correlations := ⟨[]⟩

instance : EmptyCollection Correlations := ⟨empty⟩
instance : Inhabited Correlations := ⟨empty⟩

def get? (c : Correlations) (name : String) : Option Value :=
  (c.entries.find? (·.1 = name)).map (·.2)

def contains (c : Correlations) (name : String) : Bool := (c.get? name).isSome

def names (c : Correlations) : List String := c.entries.map (·.1)

def size (c : Correlations) : Nat := c.entries.length

def isEmpty (c : Correlations) : Bool := c.entries.isEmpty

def exchange (c : Correlations) (name : String) (v : Value) : Option Value × Correlations :=
  let (old, entries) := bindEntry name v c.entries
  (old, ⟨entries⟩)

def insert (c : Correlations) (name : String) (v : Value) : Correlations := (c.exchange name v).2

def take (c : Correlations) (name : String) : Option Value × Correlations :=
  let (old, entries) := dropEntry name c.entries
  (old, ⟨entries⟩)

def erase (c : Correlations) (name : String) : Correlations := (c.take name).2

def insertAll (c : Correlations) (pairs : List (String × Value)) : Correlations :=
  pairs.foldl (fun c (name, v) => c.insert name v) c

/-- Later pairs overwrite earlier ones of the same name in their place. -/
def ofPairs (pairs : List (String × Value)) : Correlations := empty.insertAll pairs

instance : BEq Correlations := ⟨fun a b => a.entries == b.entries⟩

def toTree (c : Correlations) : Tree :=
  .array (c.entries.map fun (name, v) => .array [.text name, v.toTree])

def toText (c : Correlations) : String := c.toTree.toText

/-- How deep arrays and objects may nest in a document. -/
def documentDepth : Nat := 127

def entry? : Tree → Option (String × Value)
  | .array [name, v] => do return (← name.text?, ← Value.ofTree? (documentDepth - 2) v)
  | _ => none

def ofTree? : Tree → Option Correlations
  | .array items => (items.mapM entry?).map (⟨·⟩)
  | _ => none

def ofText? (s : String) : Option Correlations := (Tree.ofText? s).bind ofTree?

@[simp] theorem get?_empty (name : String) : (∅ : Correlations).get? name = none := rfl

theorem exchange_fst (c : Correlations) (name : String) (v : Value) :
    (c.exchange name v).1 = c.get? name := by
  obtain ⟨entries⟩ := c
  simp only [exchange, get?]
  induction entries with
  | nil => rfl
  | cons e rest ih =>
    obtain ⟨other, w⟩ := e
    by_cases h : other = name <;> simp [bindEntry, h, ih]

theorem take_fst (c : Correlations) (name : String) : (c.take name).1 = c.get? name := by
  obtain ⟨entries⟩ := c
  simp only [take, get?]
  induction entries with
  | nil => rfl
  | cons e rest ih =>
    obtain ⟨other, w⟩ := e
    by_cases h : other = name <;> simp [dropEntry, h, ih]

theorem get?_insert (c : Correlations) (name key : String) (v : Value) :
    (c.insert name v).get? key = if name = key then some v else c.get? key := by
  obtain ⟨entries⟩ := c
  simp only [insert, exchange, get?]
  induction entries with
  | nil => by_cases h : name = key <;> simp [bindEntry, h]
  | cons e rest ih =>
    obtain ⟨other, w⟩ := e
    by_cases h : other = name
    · by_cases hk : name = key <;> simp [bindEntry, h, hk]
    · by_cases hk : other = key
      · subst hk; simp [bindEntry, h, Ne.symm h]
      · simpa [bindEntry, h, hk] using ih

end Correlations
end Ambient
