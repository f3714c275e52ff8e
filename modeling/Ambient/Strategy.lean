import Ambient.Error
import Ambient.Text.Blank
import Ambient.Text.Letter

namespace Ambient

inductive Strategy where
  | threadLocal
  | taskLocal
deriving DecidableEq

namespace Strategy

instance : Inhabited Strategy := ⟨taskLocal⟩

def name : Strategy → String
  | threadLocal => "thread_local"
  | taskLocal => "task_local"

def ofName? (cs : List Char) : Option Strategy :=
  if cs ∈ ["thread_local", "threadlocal", "threadlocal_context"].map String.toList then
    some threadLocal
  else if cs ∈ ["task_local", "tasklocal", "contextvars_context"].map String.toList then
    some taskLocal
  else none

/-- Padding and letter case of a name do not count; an error names the text as it was given. -/
def parse (s : String) : Except ContextError Strategy :=
  match ofName? (Text.lower (Text.trim s.toList)) with
  | some strategy => .ok strategy
  | none => .error (.unknownStrategy s)

open Json (Tree)

def toTree (s : Strategy) : Tree := .text s.name

/-- Documents hold the exact names. -/
def ofTree? (t : Tree) : Option Strategy := do
  match ← t.case? with
  | "thread_local" => some threadLocal
  | "task_local" => some taskLocal
  | _ => none

def ofText? (s : String) : Option Strategy := (Tree.ofText? s).bind ofTree?

end Strategy
end Ambient
