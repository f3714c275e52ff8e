import Ambient.Carrier
import Ambient.Context

namespace Ambient.Scenario

inductive Report where
  | nothing
  | flag (b : Bool)
  | text (s : String)
  | context (c : Context)
  | datum (d : Option Datum)
  | carrier (c : Carrier)
  | snapshot (c : Option Context)
  | token (previous : Option Context) (depth : Option Nat) (owner : String)
  | names (names : Option (List String))
  | outcomes (failures : List (Option String))

/-- The label of a step, its report where it makes one, and, where the step shows the binding of a
cell that is there, that binding after the step. -/
structure Entry where
  label : String
  report : Option Report
  binding : Option (Option Context)

def Report.ofFailure : Option String → Report
  | none => .nothing
  | some message => .text message

def closing (label : String) : String := "/" ++ label

end Ambient.Scenario
