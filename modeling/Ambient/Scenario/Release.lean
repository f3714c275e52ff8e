import Ambient.Scenario.State

namespace Ambient.Scenario

def dropGuard (g : Guard) : Play Unit := do
  changeSite fun s => (g.finish s).2
  release g.cell

def dropGuards : List (String × Guard) → Play Unit
  | [] => return
  | (_, g) :: guards => do
    dropGuard g
    dropGuards guards

/-- Cancels a suspended task, given by its levels from the outermost in. What is further in is let
go first, inside the frame of its task if the task has one. -/
def cancelLevels : List Level → Play Unit
  | [] => return
  | .block body :: inner => do
    cancelLevels inner
    dropGuards body.guards
  | .task shell holds body :: inner => do
    let host ← ask (·.frame)
    changeSite shell.reveal
    cancelLevels inner
    dropGuards body.guards
    changeSite (shell.conceal host)
    letGo holds

def cancel (t : Task) : Play Unit := cancelLevels t.reverse

def putTask (name : String) (t : Task) : Play Unit := do
  let old := (← get).tasks[name]?
  modify fun st => { st with tasks := st.tasks.insert name t }
  if let some old := old then cancel old

def takeTask (name : String) : Play (Option Task) :=
  modifyGet fun st => (st.tasks[name]?, { st with tasks := st.tasks.erase name })

def putBound (name : String) (work : Bound (List Step)) : Play Unit := do
  let old := (← get).bound[name]?
  modify fun st => { st with bound := st.bound.insert name work }
  if let some old := old then release old.cell

def takeBound (name : String) : Play (Option (Bound (List Step))) :=
  modifyGet fun st => (st.bound[name]?, { st with bound := st.bound.erase name })

def putGuard (name : String) (g : Guard) : Play Unit := do
  let old := (← get).guards[name]?
  modify fun st => { st with guards := st.guards.insert name g }
  if let some old := old then dropGuard old

def bodyGuards : Play (List (String × Guard)) := do
  match (← get).stack with
  | ⟨body, _⟩ :: _ => return body.guards
  | [] => return []

/-- The guard that a name stands for: the newest of the innermost body, or a shared one. -/
def guard? (name : String) : Play (Option Guard) := do
  match (← bodyGuards).find? (·.1 = name) with
  | some (_, g) => return some g
  | none => return (← get).guards[name]?

def putNewest (name : String) (g : Option Guard) : List (String × Guard) → List (String × Guard)
  | [] => []
  | (other, h) :: guards =>
    if other = name then
      match g with
      | some g => (other, g) :: guards
      | none => guards
    else (other, h) :: putNewest name g guards

def changeGuard (name : String) (g : Option Guard) : Play Unit := do
  if (← bodyGuards).any (·.1 = name) then changeGuards (putNewest name g)
  else
    modify fun st => { st with
      guards := match g with
        | some g => st.guards.insert name g
        | none => st.guards.erase name }

end Ambient.Scenario
