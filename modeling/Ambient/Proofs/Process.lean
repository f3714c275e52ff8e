import Ambient.Proofs.Job

namespace Ambient

structure Process where
  registry : Registry
  threads : Nat → Thread
  jobs : List Job

/-- What can happen next. Jobs are started and polled on some thread by a unit that has a frame or
has none. Anything else may change the storage of a thread, and make cells or retire them. -/
inductive Event where
  | start (c : Option Context) (script : Script) (thread : Nat) (host : Option Bindings)
  | poll (job thread : Nat) (host : Option Bindings)
  | other (thread : Nat) (s : Site)

def Event.Keeps (r : Cell) : Event → Prop
  | .other _ s => s.isLive r.id
  | _ => True

def Event.polls (i : Nat) : Event → Bool
  | .poll job _ _ => job == i
  | _ => false

namespace Process

def site (p : Process) (thread : Nat) (host : Option Bindings) : Site :=
  ⟨p.registry, p.threads thread, host⟩

def withSite (p : Process) (thread : Nat) (s : Site) : Process :=
  { p with
    registry := s.registry
    threads := fun name => if name = thread then s.thread else p.threads name }

def step (r : Cell) (p : Process) : Event → Process
  | .start c script thread host =>
    { p with jobs := p.jobs ++ [Job.start r c script (p.site thread host)] }
  | .poll i thread host =>
    match p.jobs[i]? with
    | none => p
    | some j =>
      let (j, s) := j.poll r (p.site thread host)
      { p.withSite thread s with jobs := p.jobs.set i j }
  | .other thread s => p.withSite thread s

def run (r : Cell) (p : Process) (events : List Event) : Process := events.foldl (step r) p

def Uses (r : Cell) (p : Process) : Prop := p.registry.live.contains r.id

/-- Nothing has happened yet, but the cell is in use. -/
def fresh (r : Cell) : Process := ⟨⟨r.id + 1, Std.ExtTreeSet.empty.insert r.id⟩, fun _ => .fresh, []⟩

variable {r : Cell} {p : Process} {i : Nat} {j : Job} {e : Event} {events : List Event}

theorem run_nil (r : Cell) (p : Process) : p.run r [] = p := rfl

theorem run_cons (r : Cell) (p : Process) (e : Event) (events : List Event) :
    p.run r (e :: events) = (p.step r e).run r events := rfl

theorem run_append (r : Cell) (p : Process) (events events' : List Event) :
    p.run r (events ++ events') = (p.run r events).run r events' := List.foldl_append

theorem uses_fresh (r : Cell) : (fresh r).Uses r := by
  simp [Uses, fresh]

theorem Uses.isLive (h : p.Uses r) (thread : Nat) (host : Option Bindings) :
    (p.site thread host).isLive r.id := h

theorem Uses.step (h : p.Uses r) (he : e.Keeps r) : (p.step r e).Uses r := by
  cases e with
  | start c script thread host => exact h
  | other thread s => exact he
  | poll i thread host =>
    rw [Process.step]
    cases p.jobs[i]? with
    | none => exact h
    | some j =>
      change (j.poll r (p.site thread host)).2.isLive r.id
      rw [Site.isLive, Job.registry_poll]
      exact h

theorem Uses.run (h : p.Uses r) (he : ∀ e ∈ events, e.Keeps r) : (p.run r events).Uses r := by
  induction events generalizing p with
  | nil => exact h
  | cons e events ih =>
    simp only [List.mem_cons, forall_eq_or_imp] at he
    exact ih (h.step he.1) he.2

theorem step_of_not_polls (r : Cell) (hj : p.jobs[i]? = some j) (he : e.polls i = false) :
    (p.step r e).jobs[i]? = some j := by
  cases e with
  | start c script thread host =>
    exact (List.getElem?_append_left (List.getElem?_eq_some_iff.1 hj).1).trans hj
  | other thread s => exact hj
  | poll i' thread host =>
    have other : i' ≠ i := ne_of_beq_false he
    rw [step]
    cases p.jobs[i']? with
    | none => exact hj
    | some j' => exact (List.getElem?_set_ne other).trans hj

theorem jobs_run_of_not_polls (r : Cell) (hj : p.jobs[i]? = some j)
    (he : ∀ e ∈ events, e.polls i = false) :
    (p.run r events).jobs[i]? = some j := by
  induction events generalizing p with
  | nil => exact hj
  | cons e events ih =>
    simp only [List.mem_cons, forall_eq_or_imp] at he
    exact ih (step_of_not_polls r hj he.1) he.2

theorem step_of_polls (r : Cell) (hj : p.jobs[i]? = some j) (he : e.polls i = true) :
    ∃ thread host, (p.step r e).jobs[i]? = some (j.poll r (p.site thread host)).1 := by
  cases e with
  | start c script thread host => cases he
  | other thread s => cases he
  | poll i' thread host =>
    obtain rfl : i' = i := eq_of_beq he
    refine ⟨thread, host, ?_⟩
    simp only [step, hj]
    exact List.getElem?_set_self (List.getElem?_eq_some_iff.1 hj).1

/-- What every poll keeps holds of a job of a process at any time. -/
theorem jobs_run {P : Job → Prop} (hP : ∀ {j s}, P j → s.isLive r.id → P (j.poll r s).1) (h : P j)
    (uses : p.Uses r) (hj : p.jobs[i]? = some j) (he : ∀ e ∈ events, e.Keeps r) :
    ∃ j', (p.run r events).jobs[i]? = some j' ∧ P j' := by
  induction events generalizing p j with
  | nil => exact ⟨j, hj, h⟩
  | cons e events ih =>
    simp only [List.mem_cons, forall_eq_or_imp] at he
    have uses' := uses.step he.1
    cases hp : e.polls i with
    | false => exact ih h uses' (step_of_not_polls r hj hp) he.2
    | true =>
      obtain ⟨thread, host, hj'⟩ := step_of_polls r hj hp
      exact ih (hP h (uses.isLive thread host)) uses' hj' he.2

/-- A job of a process keeps up with one that agrees with it and is polled as often. -/
theorem run_agree {k : Job} {t : Site} (h : Job.Agree r j k) (uses : p.Uses r)
    (hj : p.jobs[i]? = some j) (he : ∀ e ∈ events, e.Keeps r) (ht : t.isLive r.id) :
    ∃ j', (p.run r events).jobs[i]? = some j' ∧
      Job.Agree r j' (Job.pollTimes r (events.countP (Event.polls i)) k t).1 := by
  induction events generalizing p j k t with
  | nil => exact ⟨j, hj, h⟩
  | cons e events ih =>
    simp only [List.mem_cons, forall_eq_or_imp] at he
    have uses' := uses.step he.1
    cases hp : e.polls i with
    | false =>
      rw [List.countP_cons_of_neg (by simp [hp])]
      exact ih h uses' (step_of_not_polls r hj hp) he.2 ht
    | true =>
      rw [List.countP_cons_of_pos hp]
      obtain ⟨thread, host, hj'⟩ := step_of_polls r hj hp
      refine ih (h.poll (uses.isLive thread host) ht) uses' hj' he.2 ?_
      rw [Site.isLive, Job.registry_poll]
      exact ht

end Process

end Ambient
