import Ambient.Json.Tree

namespace Ambient.Json

/-- The documents given for the fields of a record, in the order of the record's field names. -/
def Tree.fields? (names : List String) : Tree → Option (List (Option Tree))
  | .array items =>
    if items.length ≤ names.length then
      some (items.map some ++ List.replicate (names.length - items.length) none)
    else none
  | .object fields =>
    names.mapM fun name =>
      match fields.filter (·.1 = name) with
      | [] => some none
      | [(_, t)] => some (some t)
      | _ => none
  | _ => none

/-- Whether a record is written as an array, where no field before the last may be left out. -/
def Tree.isArray : Tree → Bool
  | .array _ => true
  | _ => false

namespace Tree

def text? : Tree → Option String
  | .text s => some s
  | _ => none

def bool? : Tree → Option Bool
  | .bool b => some b
  | _ => none

def textOrNull? : Tree → Option (Option String)
  | .null => some none
  | .text s => some (some s)
  | _ => none

def below? (bound : Nat) : Tree → Option (Fin bound)
  | .number ⟨false, n, [], none⟩ => if h : n < bound then some ⟨n, h⟩ else none
  | _ => none

def case? : Tree → Option String
  | .text s => some s
  | .object [(name, .null)] => some name
  | _ => none

end Tree
end Ambient.Json
