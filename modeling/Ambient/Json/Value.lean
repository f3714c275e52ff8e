import Ambient.Json.Number
import Ambient.Json.Reader

namespace Ambient.Json

inductive Value where
  | null
  | bool (b : Bool)
  | number (n : Number)
  | text (s : String)
  | array (items : List Value)
  | object (fields : List (String × Value))

namespace Value

instance : Inhabited Value := ⟨null⟩

def ofInt? (n : Int) : Option Value := (Whole.ofInt? n).map (.number ∘ .whole)

/-- Binds a name in an object, keeping the order of names. -/
def putField (name : String) (v : Value) : List (String × Value) → List (String × Value)
  | [] => [(name, v)]
  | (other, w) :: fields =>
    if name < other then (name, v) :: (other, w) :: fields
    else if name = other then (name, v) :: fields
    else (other, w) :: putField name v fields

def ofFields (fields : List (String × Value)) : Value :=
  .object (fields.foldl (fun done (name, v) => putField name v done) [])

mutual

def same : Value → Value → Bool
  | .null, .null => true
  | .bool a, .bool b => a == b
  | .number a, .number b => a.same b
  | .text a, .text b => a == b
  | .array as, .array bs => sameItems as bs
  | .object as, .object bs => sameFields as bs
  | _, _ => false

def sameItems : List Value → List Value → Bool
  | [], [] => true
  | a :: as, b :: bs => a.same b && sameItems as bs
  | _, _ => false

def sameFields : List (String × Value) → List (String × Value) → Bool
  | [], [] => true
  | (name, a) :: as, (other, b) :: bs => name == other && a.same b && sameFields as bs
  | _, _ => false

end

/-- Values are equal when they have one structure and their numbers are equal as numbers. -/
instance : BEq Value := ⟨same⟩

mutual

def toTree : Value → Tree
  | .null => .null
  | .bool b => .bool b
  | .number n => .number n.toNumeral
  | .text s => .text s
  | .array items => .array (toItems items)
  | .object fields => .object (toFields fields)

def toItems : List Value → List Tree
  | [] => []
  | v :: vs => v.toTree :: toItems vs

def toFields : List (String × Value) → List (String × Tree)
  | [] => []
  | (name, v) :: fields => (name, v.toTree) :: toFields fields

end

def toText (v : Value) : String := v.toTree.toText

mutual

/-- The value of a document in which arrays and objects nest at most `depth` deep. -/
def ofTree? : (depth : Nat) → Tree → Option Value
  | _, .null => some .null
  | _, .bool b => some (.bool b)
  | _, .number n => (Number.ofNumeral? n).map .number
  | _, .text s => some (.text s)
  | _, .broken => none
  | 0, .array _ => none
  | 0, .object _ => none
  | depth + 1, .array items => (ofItems? depth items).map .array
  | depth + 1, .object fields => (ofFields? depth fields).map ofFields

def ofItems? : (depth : Nat) → List Tree → Option (List Value)
  | _, [] => some []
  | depth, t :: ts => do return (← ofTree? depth t) :: (← ofItems? depth ts)

def ofFields? : (depth : Nat) → List (String × Tree) → Option (List (String × Value))
  | _, [] => some []
  | depth, (name, t) :: ts => do return (name, ← ofTree? depth t) :: (← ofFields? depth ts)

end

end Value
end Ambient.Json
