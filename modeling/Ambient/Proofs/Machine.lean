import Ambient.Proofs.Process

namespace Ambient

inductive Mark where
  | guard
  | block
  | task (i : Nat)

/-- `close` ends what the thread has opened last: a guard, a block, or a task, which is complete
then. `pause` ends the poll of a task that goes on later; the task keeps its guards. A task is
started with the given context, or with the current one. -/
inductive Act where
  | current
  | snapshot
  | value (key : String) (kind : Kind)
  | set (c : Context)
  | activate (c : Context)
  | within (c : Context)
  | bind
  | call (work : Nat)
  | start (c : Option Context)
  | poll (task : Nat)
  | pause
  | close

inductive Sight where
  | current (c : Context)
  | snapshot (c : Option Context)
  | value (d : Option Datum)

inductive Program where
  | stop
  | act (thread : Nat) (what : Act) (next : Option Sight → Program)

/-- A thread with the frame that it is in and with what it has open, the newest first. -/
structure Lane where
  thread : Thread
  frame : Option Bindings
  held : List (Mark × Visit)

structure Machine.Task where
  shell : Shell
  held : List (Mark × Visit)

/-- The tasks are numbered as they are started. There is none under the number of a task that is
being polled or complete. -/
structure Machine where
  registry : Registry
  lanes : Nat → Lane
  tasks : List (Option Machine.Task)
  bound : List (Bound Unit)

structure Parting (α : Type) where
  own : List (Mark × α)
  task : Nat
  entry : α
  below : List (Mark × α)

/-- Parts what is open where a task has nothing but guards of its own on top of it. -/
def parting {α : Type} : List (Mark × α) → Option (Parting α)
  | [] => none
  | (.guard, x) :: held => (parting held).map fun p => { p with own := (.guard, x) :: p.own }
  | (.block, _) :: _ => none
  | (.task i, x) :: held => some ⟨[], i, x, held⟩

namespace Machine

def start (r : Cell) : Machine := ⟨(Process.fresh r).registry, fun _ => ⟨.fresh, none, []⟩, [], []⟩

def site (m : Machine) (n : Nat) : Site := ⟨m.registry, (m.lanes n).thread, (m.lanes n).frame⟩

def put (m : Machine) (n : Nat) (s : Site) (held : List (Mark × Visit)) : Machine :=
  { m with
    registry := s.registry
    lanes := fun other => if other = n then ⟨s.thread, s.frame, held⟩ else m.lanes other }

def activate (r : Cell) (mark : Mark) (c : Context) (m : Machine) (n : Nat) : Machine :=
  let (g, s) := Guard.activate r c (m.site n)
  m.put n s ((mark, .guarded g) :: (m.lanes n).held)

def act (r : Cell) (m : Machine) (n : Nat) : Act → Option Sight × Machine
  | .current => (some (.current (r.current (m.site n))), m)
  | .snapshot => (some (.snapshot (r.binding (m.site n))), m)
  | .value key k => (some (.value (((r.current (m.site n)).get? key k).map (Datum.mk k))), m)
  | .set c => (none, m.put n (r.set c (m.site n)) (m.lanes n).held)
  | .activate c => (none, m.activate r .guard c n)
  | .within c => (none, m.activate r .block c n)
  | .bind => (none, { m with bound := m.bound ++ [r.bind () (m.site n)] })
  | .call i =>
    match m.bound[i]? with
    | none => (none, m)
    | some b => (none, m.activate b.cell .block b.context n)
  | .start c => (none, { m with tasks := m.tasks ++ [some ⟨r.shell c (m.site n), []⟩] })
  | .poll i =>
    match m.tasks[i]? with
    | none | some none => (none, m)
    | some (some task) =>
      let (visit, s) := task.shell.enter (m.site n)
      let m := { m with tasks := m.tasks.set i none }
      (none, m.put n s (task.held ++ (.task i, visit) :: (m.lanes n).held))
  | .pause =>
    match parting (m.lanes n).held with
    | none => (none, m)
    | some p =>
      let (shell, s) := p.entry.leave (m.site n)
      let m := { m with tasks := m.tasks.set p.task (some ⟨shell, p.own⟩) }
      (none, m.put n s p.below)
  | .close =>
    match (m.lanes n).held with
    | [] => (none, m)
    | (_, visit) :: below => (none, m.put n (visit.leave (m.site n)).2 below)

end Machine

namespace Program

def run (r : Cell) : Program → Machine → List Sight
  | .stop, _ => []
  | .act n what next, m =>
    (m.act r n what).1.toList ++ (next (m.act r n what).1).run r (m.act r n what).2

/-- The cell is bound wherever a task is started without a context. -/
def ForksBound (r : Cell) : Program → Machine → Prop
  | .stop, _ => True
  | .act n what next, m =>
    (what = .start none → (r.binding (m.site n)).isSome) ∧
      (next (m.act r n what).1).ForksBound r (m.act r n what).2

end Program

theorem parting_eq_some {α : Type} {held : List (Mark × α)} {p : Parting α}
    (h : parting held = some p) : held = p.own ++ (.task p.task, p.entry) :: p.below := by
  induction held generalizing p with
  | nil => cases h
  | cons x held ih =>
    obtain ⟨mark, x⟩ := x
    cases mark with
    | guard =>
      obtain ⟨q, hq, rfl⟩ := Option.map_eq_some_iff.1 h
      exact congrArg _ (ih hq)
    | block => cases h
    | task i =>
      cases h
      rfl

end Ambient
