import Ambient.Proofs.Script

namespace Ambient

inductive Polled where
  | pending
  | ready
  | failed (message : String)

/-- What a future still owns when it is dropped, in the order in which it goes: guards by their
numbers, and suspended tasks with what they own in turn. -/
inductive Remains where
  | nothing
  | guard (i : Nat) (next : Remains)
  | task (shell : Shell) (inner next : Remains)

namespace Remains

def drop : Remains → Own → Site → Own × Site
  | .nothing, own, s => (own, s)
  | .guard i next, own, s => next.drop (own.finish i s).1 (own.finish i s).2
  | .task shell inner next, own, s =>
    let x := inner.drop own (shell.reveal s)
    next.drop x.1 (shell.conceal s.frame x.2)

def guards : Remains → List Nat
  | .nothing => []
  | .guard i next => i :: next.guards
  | .task _ inner next => inner.guards ++ next.guards

end Remains

def Polled.rids (how : Polled) (left : Remains) : Remains :=
  match how with
  | .pending => .nothing
  | .ready | .failed _ => left

/-- One poll of a task. If its future has come to an end, what the future still owns is dropped in
the same poll, but only after the host has its slot or its frame back. -/
def Shell.visit (shell : Shell) (work : Own → Site → (Polled × Own) × Site) (left : Remains)
    (own : Own) (s : Site) : (Polled × Own) × Shell × Site :=
  let x := shell.poll (work own) s
  let y := (Remains.task x.2.1 (x.1.1.rids left) .nothing).drop x.1.2 x.2.2
  ((x.1.1, y.1), x.2.1, y.2)

/-- Work in one poll with any number of cells. It need not put anything in order, and what comes
after a reading may depend on what was read. A visit is the poll of another task, or a call inside a
frame; the work may go on after one that failed, or fail as well. Only tokens and guards from inside
the work are used, and only cells in use are retired. -/
inductive Activity where
  | stop (how : Polled)
  | current (q : Cell) (next : Context → Activity)
  | snapshot (q : Cell) (next : Option Context → Activity)
  | set (q : Cell) (c : Context) (next : Activity)
  | remove (q : Cell) (next : Activity)
  | restore (q : Cell) (c : Option Context) (next : Activity)
  | attach (q : Cell) (c : Context) (next : Activity)
  | detach (q : Cell) (token : Nat) (next : Activity)
  | activate (q : Cell) (c : Context) (next : Activity)
  | finish (guard : Nat) (next : Activity)
  | make (k : Strategy) (next : Cell → Activity)
  | retire (q : Cell) (next : Activity)
  | fork (q : Cell) (c : Option Context) (next : Shell → Activity)
  | visit (shell : Shell) (inner : Activity) (left : Remains) (next : Polled → Shell → Activity)
  | drop (left : Remains) (next : Activity)

def Activity.run : Activity → Own → Site → (Polled × Own) × Site
  | .stop how, own, s => ((how, own), s)
  | .current q next, own, s => (next (q.current s)).run own s
  | .snapshot q next, own, s => (next (q.binding s)).run own s
  | .set q c next, own, s => next.run own (q.set c s)
  | .remove q next, own, s => next.run own (q.remove s)
  | .restore q c next, own, s => next.run own (q.restore c s)
  | .attach q c next, own, s =>
    next.run { own with tokens := own.tokens ++ [(q.attach c s).1] } (q.attach c s).2
  | .detach q i next, own, s => next.run (own.detach q i s).1 (own.detach q i s).2
  | .activate q c next, own, s =>
    next.run { own with guards := own.guards ++ [(Guard.activate q c s).1] }
      (Guard.activate q c s).2
  | .finish i next, own, s => next.run (own.finish i s).1 (own.finish i s).2
  | .make k next, own, s => (next (Cell.make k s).1).run own (Cell.make k s).2
  | .retire q next, own, s => next.run own (if s.isLive q.id then q.retire s else s)
  | .fork q c next, own, s => (next (q.shell c s)).run own s
  | .visit shell inner left next, own, s =>
    let x := shell.visit inner.run left own s
    (next x.1.1 x.2.1).run x.1.2 x.2.2
  | .drop left next, own, s => next.run (left.drop own s).1 (left.drop own s).2

structure Errand where
  shell : Shell
  own : Own

namespace Errand

def start (shell : Shell) : Errand := ⟨shell, .start⟩

def poll (a : Activity) (left : Remains) (e : Errand) (s : Site) : (Polled × Errand) × Site :=
  let x := e.shell.visit a.run left e.own s
  ((x.1.1, ⟨x.2.1, x.1.2⟩), x.2.2)

def pollAll : List (Activity × Site) → Errand → Errand
  | [], e => e
  | (a, s) :: polls, e => pollAll polls (e.poll a .nothing s).1.2

end Errand

structure Site.Undisturbed (s t : Site) : Prop where
  frame : t.frame = s.frame
  stack (id : Nat) : t.stack id = s.stack id ∨ ¬ t.isLive id ∧ t.stack id = []

def Registry.Proper (g : Registry) : Prop := ∀ id, g.live.contains id → id < g.next

namespace Guard

def tokenOf (r : Cell) (g : Guard) : Option Token :=
  g.token.filter fun k => g.cell = r ∧ k.issuer = r.id

def endAt (gs : List Guard) (i : Nat) : List Guard := gs.modify i fun g => ⟨g.cell, none⟩

/-- The tokens that undo attachments of the cell when the guards of these numbers end, one after
another. A guard that has ended has none left. -/
def spent (r : Cell) : List Nat → List Guard → List Token
  | [], _ => []
  | i :: order, gs => (gs[i]?.bind (·.tokenOf r)).toList ++ spent r order (endAt gs i)

end Guard

end Ambient
