import Ambient.Carrier
import Ambient.Datum
import Ambient.Strategy

namespace Ambient.Scenario

inductive Source where
  | entries (pairs : List (String × Datum))
  | register (name : String)

inductive Saved where
  | snapshot (register : String)
  | context (c : Source)
  | unbound

/-- How a cell is made. The default is a task-local cell that shows only what cells of either
strategy have in common. -/
inductive Make where
  | threadLocal
  | taskLocal
  | default
deriving DecidableEq

inductive Operation where
  | name
  | get
  | value (key : String) (kind : Kind)
  | set (c : Source)
  | remove
  | equals (c : Source)
  | keep (target : String)
  | inject
  | snapshot (target : String)
  | restore (saved : Saved)
  | attach (c : Source) (token : String)
  | detach (token : String)
  | activate (c : Source) (guard : String) (shared : Bool)
  | frame (c : Option Source) (target : String)

inductive Handling where
  | finish (guard : String)
  | isActive (guard : String)
  | drop (guard : String)

inductive Command where
  | define (c : Source) (pairs : List (String × Datum)) (target : String)
  | extract (c : Source) (carrier : Carrier) (target : String)
  | sameSnapshot (a b : String)
  | inTask
  | sameCell (a b : String)
  | make (cell : String) (how : Make)
  | dropCell (cell : String)

inductive Scope where
  | activated (c : Source)
  | caught
  | thread
  | worker (name : String)
  | frame (register : String)
  | scoped (c : Source)

/-- What a body that is kept for later is kept as. A direct task is started by the task-local cell
itself, where the cell shows that it is one. -/
inductive Keeping where
  | bound (name : String)
  | fork (task : String) (direct : Bool)
  | scope (c : Source) (task : String) (direct : Bool)
  | enter (frame task : String)

/-- A step. The cell it names is the one whose binding its entry in the log shows. -/
inductive Step where
  | operate (cell : String) (op : Operation)
  | handle (cell : String) (h : Handling)
  | command (c : Command)
  | inside (cell : String) (scope : Scope) (body : List Step)
  | store (cell : String) (how : Keeping) (body : List Step)
  | block (body : List Step)
  | spawn (cell : String) (direct : Bool) (bodies : List (List Step))
  | call (cell : String) (name : String)
  | poll (cell : String) (task : String)
  | run (cell : String) (task : String)
  | dropTask (cell : String) (task : String)
  | await (task : String)
  | pause
  | leave
  | fail (message : String)

instance : Inhabited Step := ⟨.leave⟩

mutual

def Step.size : Step → Nat
  | .inside _ _ body => 2 + sizeOfBody body
  | .store _ _ body => 2 + sizeOfBody body
  | .block body => 2 + sizeOfBody body
  | .spawn _ _ bodies => 1 + sizeOfBodies bodies
  | _ => 1

def sizeOfBody : List Step → Nat
  | [] => 0
  | s :: steps => s.size + sizeOfBody steps

def sizeOfBodies : List (List Step) → Nat
  | [] => 0
  | body :: bodies => 1 + sizeOfBody body + sizeOfBodies bodies

end

end Ambient.Scenario
