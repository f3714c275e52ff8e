import Std.Data.TreeMap
import Ambient.Text.Segment

namespace Ambient

inductive Carrier where
  | single (fields : Std.TreeMap String String compare)
  | multiple (fields : Std.TreeMap String (List String) compare)
  | pairs (fields : List (String × String))

namespace Carrier

def empty : Carrier := .single ∅

def joinValues (values : List String) : String :=
  String.ofList (Text.join ',' (values.map String.toList))

/-- Several values of a name read as one, joined by commas; no values read as an absent name. Of
pairs the first counts. -/
def get? (c : Carrier) (name : String) : Option String :=
  match c with
  | .single fields => fields[name]?
  | .multiple fields =>
    match fields[name]? with
    | none | some [] => none
    | some values => some (joinValues values)
  | .pairs fields => (fields.find? (·.1 = name)).map (·.2)

/-- Replaces all values of a name; pairs are only ever added to. -/
def set (c : Carrier) (name value : String) : Carrier :=
  match c with
  | .single fields => .single (fields.insert name value)
  | .multiple fields => .multiple (fields.insert name [value])
  | .pairs fields => .pairs (fields ++ [(name, value)])

end Carrier
end Ambient
