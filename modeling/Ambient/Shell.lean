import Ambient.Guard

namespace Ambient

inductive Shell where
  | framed (frame : Bindings)
  | carried (cell : Cell) (context : Context)

/-- What a poll has to put back when it ends: the frame of the unit that polls, or an attachment. -/
inductive Visit where
  | host (frame : Option Bindings)
  | guarded (g : Guard)

/-- The shell of a task started here, with the given context or with the current one. -/
def Cell.shell (r : Cell) (c : Option Context) (s : Site) : Shell :=
  match r.fork c s with
  | some frame => .framed frame
  | none => .carried r (c.getD (r.current s))

def Shell.enter (shell : Shell) (s : Site) : Visit × Site :=
  match shell with
  | .framed frame => (.host s.frame, { s with frame := some frame })
  | .carried r c =>
    let (g, s) := Guard.activate r c s
    (.guarded g, s)

def Visit.leave (visit : Visit) (s : Site) : Shell × Site :=
  match visit with
  | .host frame => (.framed (s.frame.getD ∅), { s with frame })
  | .guarded g => (.carried g.cell (g.cell.current s), (g.finish s).2)

def Shell.poll {α : Type} (shell : Shell) (body : Site → α × Site) (s : Site) :
    α × Shell × Site :=
  let (visit, s) := shell.enter s
  let (a, s) := body s
  let (shell, s) := visit.leave s
  (a, shell, s)

/-- Where a task that is dropped unfinished cleans up: inside its frame if it has one, and otherwise
on the thread as it is. -/
def Shell.reveal (shell : Shell) (s : Site) : Site :=
  match shell with
  | .framed frame => { s with frame := some frame }
  | .carried _ _ => s

def Shell.conceal (shell : Shell) (host : Option Bindings) (s : Site) : Site :=
  match shell with
  | .framed _ => { s with frame := host }
  | .carried _ _ => s

def Shell.drop (shell : Shell) (cleanUp : Site → Site) (s : Site) : Site :=
  shell.conceal s.frame (cleanUp (shell.reveal s))

def Site.inFrame {α : Type} (frame : Bindings) (body : Site → α × Site) (s : Site) : α × Site :=
  let (a, t) := body { s with frame := some frame }
  (a, { t with frame := s.frame })

end Ambient
