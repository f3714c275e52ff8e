import Mathlib.Data.List.Permutation
import Ambient.Proofs.Process

namespace Ambient

variable {r : Cell} {s : Site} {j : Job}

@[simp] theorem Cell.binding_shell_some (r : Cell) (c : Context) (s : Site) :
    (r.shell (some c) s).binding r = some c := by
  rw [Cell.shell, Cell.fork]
  cases r.strategy with
  | threadLocal => rfl
  | taskLocal => simp [Shell.binding]

theorem Cell.getElem?_fork (hs : r.strategy = .taskLocal) (live : s.isLive r.id) :
    ∃ frame, r.fork none s = some frame ∧
      frame[r.id]? = (s.frame.getD ∅)[r.id]?.or (s.stack r.id).head? := by
  have swept : (s.sweep (s.frame.getD ∅))[r.id]? = (s.frame.getD ∅)[r.id]? := by
    rw [Site.getElem?_sweep, if_pos live]
  simp only [Cell.fork, hs]
  cases hb : (s.frame.getD ∅)[r.id]? with
  | none =>
    have absent : (s.sweep (s.frame.getD ∅)).contains r.id = false := by
      rw [Std.ExtTreeMap.contains_eq_isSome_getElem?, swept, hb]
      rfl
    refine ⟨_, if_neg (by simp [absent]), ?_⟩
    rw [Site.getElem?_put, if_pos rfl]
    rfl
  | some c =>
    have present : (s.sweep (s.frame.getD ∅)).contains r.id = true := by
      rw [Std.ExtTreeMap.contains_eq_isSome_getElem?, swept, hb]
      rfl
    exact ⟨_, if_pos present, swept.trans hb⟩

/-- A task brings along the binding of the unit that starts it, and where that unit has none, what
is on top of the stack of its thread. -/
theorem Cell.binding_shell_none (live : s.isLive r.id) :
    (r.shell none s).binding r = match r.strategy with
      | .threadLocal => some (r.current s)
      | .taskLocal => (r.binding s).or (s.stack r.id).head? := by
  cases hs : r.strategy with
  | threadLocal => simp only [Cell.shell, Cell.fork, hs]; rfl
  | taskLocal =>
    obtain ⟨frame, forked, bound⟩ := Cell.getElem?_fork hs live
    simp only [Cell.shell, forked, Shell.binding, bound, Cell.binding, hs]
    cases s.frame with
    | none => simp
    | some frame => rfl

theorem Script.seen_prefix_follow (script : Script) (own : Own) (s : Site) :
    own.seen <+: (script.follow r own s).1.2.seen := by
  induction script generalizing own s with
  | done => exact List.prefix_refl _
  | pause next => exact List.prefix_refl _
  | set c next ih | remove next ih | restore c next ih => exact ih _ _
  | current next ih | snapshot next ih =>
    refine List.IsPrefix.trans ?_ (ih _ _ _)
    exact List.prefix_append _ _
  | attach c next ih | activate c next ih | finish i next ih =>
    refine List.IsPrefix.trans ?_ (ih _ _)
    exact List.prefix_refl _
  | detach i next ih =>
    refine List.IsPrefix.trans ?_ (ih _ _)
    rw [Own.detach]
    cases own.tokens[i]? with
    | none => exact List.prefix_refl _
    | some t => exact List.prefix_refl _

theorem Own.getElem?_of_see {own : Own} {x : Reading} {seen : List Reading}
    (h : (own.see x).seen <+: seen) : seen[own.seen.length]? = some x := by
  obtain ⟨later, rfl⟩ := h
  simp [see]

theorem Job.head_seen_poll {c : Option Context} {next : Context → Script} {t : Site}
    (live : t.isLive r.id) :
    ((Job.start r c (.current next) s).poll r t).1.own.seen.head? =
      some (.current (((r.shell c s).binding r).getD ∅)) := by
  obtain ⟨single, found⟩ := (r.shell_of c s).enter live
  rw [List.head?_eq_getElem?, ← found]
  exact Own.getElem?_of_see ((next _).seen_prefix_follow _ _)

def Process.firstReading (p : Process) (i : Nat) : Option Reading :=
  p.jobs[i]?.bind (·.own.seen.head?)

/-- The unit is a task in which the cell is unbound, on a thread whose stack is not. -/
def Cell.Overlooked (r : Cell) (s : Site) : Prop :=
  r.strategy = .taskLocal ∧ s.frame.isSome ∧ r.binding s = none ∧ (s.stack r.id).head?.getD ∅ ≠ ∅

theorem Cell.current_shell_iff (live : s.isLive r.id) :
    ((r.shell none s).binding r).getD ∅ = r.current s ↔ ¬ r.Overlooked s := by
  rw [Cell.binding_shell_none live, Cell.Overlooked, Cell.current]
  cases hs : r.strategy with
  | threadLocal => simp
  | taskLocal =>
    cases hb : r.binding s with
    | some c => simp
    | none =>
      cases hf : s.frame with
      | some frame => simp
      | none =>
        have empty : (s.stack r.id).head? = none := by simpa [Cell.binding, hs, hf] using hb
        simp [empty]

/-- The first that a task reads of the cell, whatever happened since it was started and wherever it
is polled first, is the context it was given. Given none, it is what its starter had current, unless
the starter is a task without a binding on a thread that has one. -/
theorem Process.first_reading {p : Process} (uses : p.Uses r) {next : Context → Script}
    {thread thread' : Nat} {host host' : Option Bindings} {events : List Event}
    (he : ∀ e ∈ events, e.Keeps r ∧ e.polls p.jobs.length = false) :
    let reads (c : Option Context) :=
      (p.run r (.start c (.current next) thread host :: (events ++
        [.poll p.jobs.length thread' host']))).firstReading p.jobs.length
    (∀ c, reads (some c) = some (.current c)) ∧
      (reads none = some (.current (r.current (p.site thread host))) ↔
        ¬ r.Overlooked (p.site thread host)) := by
  intro reads
  have found (c : Option Context) :
      reads c = some (.current (((r.shell c (p.site thread host)).binding r).getD ∅)) := by
    have started : (p.step r (.start c (.current next) thread host)).jobs[p.jobs.length]? =
        some (Job.start r c (.current next) (p.site thread host)) := List.getElem?_concat_length
    have kept := jobs_run_of_not_polls r started fun e h => (he e h).2
    have uses' := (uses.step (e := .start c (.current next) thread host) trivial).run
      fun e h => (he e h).1
    obtain ⟨name, frame, polled⟩ :=
      step_of_polls r (e := .poll p.jobs.length thread' host') kept (by simp [Event.polls])
    simp only [reads, run_cons, run_append, run_nil, firstReading, polled]
    exact Job.head_seen_poll (uses'.isLive name frame)
  constructor
  · intro c
    rw [found, Cell.binding_shell_some]
    rfl
  · rw [found, ← Cell.current_shell_iff (uses.isLive thread host)]
    simp

/-- The starter is a task without a binding, on a thread with a mark on its stack. -/
theorem Process.first_reading_of_overlooked :
    let r : Cell := ⟨0, .taskLocal⟩
    let mark : Context := (∅ : Context).withShared "mark" ⟨0, ⟨.unit, ()⟩⟩
    let p := (fresh r).withSite 0 (r.set mark ((fresh r).site 0 none))
    let events : List Event := [.other 0 ((fresh r).site 0 none)]
    p.Uses r ∧ (∀ e ∈ events, e.Keeps r ∧ e.polls p.jobs.length = false) ∧
      (p.run r (.start none (.current fun _ => .done) 0 (some ∅) ::
        (events ++ [.poll p.jobs.length 1 none]))).firstReading p.jobs.length ≠
          some (.current (r.current (p.site 0 (some ∅)))) := by
  intro r mark p events
  have live : ((fresh r).site 0 none).isLive r.id := (uses_fresh r).isLive 0 none
  have keeps : ∀ e ∈ events, e.Keeps r ∧ e.polls p.jobs.length = false := by
    simpa [events, Event.Keeps, Event.polls] using live
  have stack : (p.site 0 (some ∅)).stack r.id = [mark] := by
    cbv
  have overlooked : r.Overlooked (p.site 0 (some ∅)) := by
    refine ⟨rfl, rfl, rfl, ?_⟩
    rw [stack]
    intro h
    have := congrArg (·.shared? "mark") h
    simp [mark] at this
  exact ⟨live, keeps, fun same => (first_reading (p := p) live keeps).2.1 same overlooked⟩

end Ambient
