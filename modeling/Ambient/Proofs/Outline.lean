import Ambient.Proofs.Machine

namespace Ambient

/-- What is current on a thread that has nothing open, and what is current in all that it has
open, the newest first. -/
structure Levels where
  base : Option Context
  above : List (Mark × Context)

namespace Levels

def found : Levels → Option Context
  | ⟨base, []⟩ => base
  | ⟨_, (_, c) :: _⟩ => some c

def current (l : Levels) : Context := l.found.getD ∅

def set (c : Context) : Levels → Levels
  | ⟨_, []⟩ => ⟨some c, []⟩
  | ⟨base, (mark, _) :: above⟩ => ⟨base, (mark, c) :: above⟩

def activate (mark : Mark) (c : Context) (l : Levels) : Levels := ⟨l.base, (mark, c) :: l.above⟩

theorem found_append (base : Option Context) (own below : List (Mark × Context)) (mark : Mark)
    (c : Context) : found ⟨base, own ++ (mark, c) :: below⟩ = found ⟨some c, own⟩ := by
  cases own with
  | nil => rfl
  | cons x own => rfl

theorem exists_found_some (c : Context) (above : List (Mark × Context)) :
    ∃ d, found ⟨some c, above⟩ = some d := by
  cases above with
  | nil => exact ⟨c, rfl⟩
  | cons x above => exact ⟨x.2, rfl⟩

end Levels

/-- A task between two polls: what is current in it under its guards, and in its guards. -/
structure Outline.Task where
  context : Context
  above : List (Mark × Context)

structure Outline where
  lanes : Nat → Levels
  tasks : List (Option Outline.Task)
  bound : List Context

namespace Outline

def start : Outline := ⟨fun _ => ⟨none, []⟩, [], []⟩

def put (o : Outline) (n : Nat) (l : Levels) : Outline :=
  { o with lanes := fun other => if other = n then l else o.lanes other }

def act (o : Outline) (n : Nat) : Act → Option Sight × Outline
  | .current => (some (.current (o.lanes n).current), o)
  | .snapshot => (some (.snapshot (o.lanes n).found), o)
  | .value key k => (some (.value (((o.lanes n).current.get? key k).map (Datum.mk k))), o)
  | .set c => (none, o.put n ((o.lanes n).set c))
  | .activate c => (none, o.put n ((o.lanes n).activate .guard c))
  | .within c => (none, o.put n ((o.lanes n).activate .block c))
  | .bind => (none, { o with bound := o.bound ++ [(o.lanes n).current] })
  | .call i =>
    match o.bound[i]? with
    | none => (none, o)
    | some c => (none, o.put n ((o.lanes n).activate .block c))
  | .start c => (none, { o with tasks := o.tasks ++ [some ⟨c.getD (o.lanes n).current, []⟩] })
  | .poll i =>
    match o.tasks[i]? with
    | none | some none => (none, o)
    | some (some task) =>
      let o := { o with tasks := o.tasks.set i none }
      let l := o.lanes n
      (none, o.put n ⟨l.base, task.above ++ (.task i, task.context) :: l.above⟩)
  | .pause =>
    match parting (o.lanes n).above with
    | none => (none, o)
    | some p =>
      let o := { o with tasks := o.tasks.set p.task (some ⟨p.entry, p.own⟩) }
      (none, o.put n ⟨(o.lanes n).base, p.below⟩)
  | .close =>
    match (o.lanes n).above with
    | [] => (none, o)
    | _ :: below => (none, o.put n ⟨(o.lanes n).base, below⟩)

end Outline

namespace Program

def outline : Program → Outline → List Sight
  | .stop, _ => []
  | .act n what next, o =>
    (o.act n what).1.toList ++ (next (o.act n what).1).outline (o.act n what).2

def OutlineForksBound : Program → Outline → Prop
  | .stop, _ => True
  | .act n what next, o =>
    (what = .start none → (o.lanes n).found.isSome) ∧
      (next (o.act n what).1).OutlineForksBound (o.act n what).2

end Program

end Ambient
