import Ambient.Json.Record
import Ambient.Json.Reader

namespace Ambient

structure Immutability where
  operation : String
  key : Option String
deriving DecidableEq

namespace Immutability

open Json (Tree)

def message (v : Immutability) : String :=
  "Context is immutable: cannot " ++ v.operation ++
    match v.key with
    | none => ""
    | some key => " key '" ++ key ++ "'"

def toTree (v : Immutability) : Tree :=
  .object [("operation", .text v.operation),
    ("key", match v.key with
      | none => .null
      | some key => .text key)]

def toText (v : Immutability) : String := v.toTree.toText

/-- In an object the key may be left out, in an array not. -/
def ofTree? (t : Tree) : Option Immutability := do
  match ← t.fields? ["operation", "key"] with
  | [some operation, some key] => return ⟨← operation.text?, ← key.textOrNull?⟩
  | [some operation, none] => if t.isArray then none else return ⟨← operation.text?, none⟩
  | _ => none

def ofText? (s : String) : Option Immutability := (Tree.ofText? s).bind ofTree?

end Immutability

inductive ContextError where
  | immutability (v : Immutability)
  | unknownStrategy (name : String)
  | logging (reason : String)
deriving DecidableEq

namespace ContextError

def kind : ContextError → String
  | immutability _ => "ImmutabilityViolation"
  | unknownStrategy _ => "UnknownRuntime"
  | logging _ => "Logging"

def message : ContextError → String
  | immutability v => v.message
  | unknownStrategy name => "Unknown runtime context '" ++ name ++ "'"
  | logging reason => "Logging error: " ++ reason

def details (e : ContextError) : List (String × String) :=
  [("type", e.kind), ("message", e.message)] ++
    match e with
    | immutability ⟨operation, none⟩ => [("operation", operation)]
    | immutability ⟨operation, some key⟩ => [("operation", operation), ("key", key)]
    | _ => []

end ContextError
end Ambient
