import Ambient.Correlations

namespace Ambient.Correlations

open Json (Value)

inductive Edit where
  | collect (pairs : List (String × Value))
  | load (text : String)
  | insert (name : String) (v : Value)
  | remove (name : String)
  | get (name : String)
  | contains (name : String)
  | size
  | names
  | equals (pairs : List (String × Value))

inductive Edit.Answer where
  | done
  | rejected
  | value (v : Option Value)
  | flag (b : Bool)
  | size (n : Nat) (isEmpty : Bool)
  | names (names : List String)

/-- A text that cannot be loaded leaves the correlations as they are. -/
def edit (c : Correlations) : Edit → Edit.Answer × Correlations
  | .collect pairs => (.done, ofPairs pairs)
  | .load text =>
    match ofText? text with
    | some loaded => (.done, loaded)
    | none => (.rejected, c)
  | .insert name v => let (old, c) := c.exchange name v; (.value old, c)
  | .remove name => let (old, c) := c.take name; (.value old, c)
  | .get name => (.value (c.get? name), c)
  | .contains name => (.flag (c.contains name), c)
  | .size => (.size c.size c.isEmpty, c)
  | .names => (.names c.names, c)
  | .equals pairs => (.flag (c == ofPairs pairs), c)

def editAll (c : Correlations) : List Edit → List (Edit.Answer × Correlations)
  | [] => []
  | e :: es => let (answer, c) := c.edit e; (answer, c) :: c.editAll es

end Ambient.Correlations
