import Ambient.Proofs.Script

namespace Ambient

structure Job where
  shell : Shell
  script : Option Script
  own : Own

namespace Job

def start (r : Cell) (c : Option Context) (script : Script) (s : Site) : Job :=
  ⟨r.shell c s, some script, .start⟩

def poll (r : Cell) (j : Job) (s : Site) : Job × Site :=
  match j.script with
  | none => (j, s) -- A job that has ended is not polled any more.
  | some script =>
    let ((script, own), shell, s) := j.shell.poll (script.follow r j.own) s
    (⟨shell, script, own⟩, s)

/-- Drops a job. The guards that it holds are finished in the given order. -/
def drop (j : Job) (order : List Guard) (s : Site) : Site := j.shell.drop (Guard.finishAll order) s

def pollTimes (r : Cell) : Nat → Job → Site → Job × Site
  | 0, j, s => (j, s)
  | n + 1, j, s => pollTimes r n (j.poll r s).1 (j.poll r s).2

end Job

/-- The binding that a task brings along. -/
def Shell.binding (r : Cell) : Shell → Option Context
  | .framed frame => frame[r.id]?
  | .carried _ c => some c

def Shell.Of (r : Cell) : Shell → Prop
  | .framed _ => r.strategy = .taskLocal
  | .carried q _ => q = r ∧ r.strategy = .threadLocal

variable {r : Cell} {s t : Site} {j k : Job} {shell : Shell}

theorem Cell.shell_of (r : Cell) (c : Option Context) (s : Site) : (r.shell c s).Of r := by
  rw [Cell.shell, Cell.fork]
  cases hs : r.strategy with
  | threadLocal => exact ⟨rfl, hs⟩
  | taskLocal =>
    cases c with
    | some c => exact hs
    | none =>
      dsimp only
      split
      next frame hf => exact hs
      next hf => split at hf <;> cases hf

theorem Shell.Of.enter (h : shell.Of r) (live : s.isLive r.id) :
    r.Single (shell.enter s).2 ∧ r.binding (shell.enter s).2 = shell.binding r := by
  cases shell with
  | framed frame =>
    have hs : r.strategy = .taskLocal := h
    exact ⟨⟨live, fun _ => rfl⟩, by simp [Shell.enter, Shell.binding, Cell.binding, hs]⟩
  | carried q c =>
    obtain ⟨rfl, hs⟩ := h
    have single : q.Single s := ⟨live, by simp [hs]⟩
    simp only [Shell.enter, single.activate_eq]
    exact ⟨single.restore _, Cell.binding_restore live _⟩

/-- What a poll leaves in the cell is brought along to the next, unbound as the empty context
where no frame can tell the difference. -/
theorem Shell.Of.leave (h : shell.Of r) (single : r.Single t) :
    ((shell.enter s).1.leave t).1.Of r ∧
      ((shell.enter s).1.leave t).1.binding r = match r.strategy with
        | .taskLocal => r.binding t
        | .threadLocal => some (r.current t) := by
  cases shell with
  | framed frame =>
    have hs : r.strategy = .taskLocal := h
    refine ⟨hs, ?_⟩
    obtain ⟨u, hf⟩ := Option.isSome_iff_exists.1 (single.framed hs)
    simp [Shell.enter, Visit.leave, Shell.binding, Cell.binding, hs, hf]
  | carried q c =>
    obtain ⟨rfl, hs⟩ := h
    exact ⟨⟨rfl, hs⟩, by simp [Shell.enter, Visit.leave, Shell.binding, hs, Guard.activate]⟩

@[simp] theorem Shell.registry_enter (shell : Shell) (s : Site) :
    (shell.enter s).2.registry = s.registry := by
  cases shell with
  | framed frame => rfl
  | carried q c => exact Guard.registry_activate q c s

@[simp] theorem Visit.registry_leave (visit : Visit) (s : Site) :
    (visit.leave s).2.registry = s.registry := by
  cases visit with
  | host frame => rfl
  | guarded g => exact Guard.registry_finish g s

@[simp] theorem Job.registry_poll (r : Cell) (j : Job) (s : Site) :
    (j.poll r s).2.registry = s.registry := by
  obtain ⟨shell, script, own⟩ := j
  cases script with
  | none => rfl
  | some script => simp [poll, Shell.poll]

theorem Job.poll_eq {script : Script} (h : j.script = some script) (s : Site) :
    let x := script.follow r j.own (j.shell.enter s).2
    (j.poll r s).1 = ⟨((j.shell.enter s).1.leave x.2).1, x.1.1, x.1.2⟩ := by
  simp only [poll, h]
  rfl

/-- Two jobs that read and do the same from now on. -/
structure Job.Agree (r : Cell) (j k : Job) : Prop where
  left : j.shell.Of r
  right : k.shell.Of r
  binding : j.shell.binding r = k.shell.binding r
  script : j.script = k.script
  own : j.own = k.own
  plain : j.own.Plain r

theorem Job.Agree.refl (h : j.shell.Of r) (plain : j.own.Plain r) : j.Agree r j :=
  ⟨h, h, rfl, rfl, rfl, plain⟩

theorem Job.Agree.poll (h : Job.Agree r j k) (hs : s.isLive r.id) (ht : t.isLive r.id) :
    Job.Agree r (j.poll r s).1 (k.poll r t).1 := by
  obtain ⟨shell, script, own⟩ := j
  obtain ⟨shell', script', own'⟩ := k
  obtain ⟨left, right, binding, rfl, rfl, plain⟩ := h
  cases script with
  | none => exact ⟨left, right, binding, rfl, rfl, plain⟩
  | some script =>
    obtain ⟨single, found⟩ := left.enter hs
    obtain ⟨single', found'⟩ := right.enter ht
    have agree : r.Agree (shell.enter s).2 (shell'.enter t).2 :=
      ⟨single, single', by rw [found, found', binding]⟩
    -- The sites differ, but inside the shells the script cannot tell.
    obtain ⟨same, plain', after⟩ := script.follow_agree plain agree
    obtain ⟨left', brought⟩ := left.leave (s := s) after.left
    obtain ⟨right', brought'⟩ := right.leave (s := t) after.right
    rw [after.binding, after.current] at brought
    exact ⟨left', right', brought.trans brought'.symm, congrArg (·.1) same, congrArg (·.2) same,
      plain'⟩

end Ambient
