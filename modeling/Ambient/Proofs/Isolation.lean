import Ambient.Proofs.Process

namespace Ambient

def Shell.ofBinding (r : Cell) (c : Option Context) : Shell :=
  match r.strategy with
  | .threadLocal => .carried r (c.getD ∅)
  | .taskLocal => .framed (Site.put ∅ r.id c)

/-- A job after a number of polls on a fresh thread, where nothing else happens. -/
def Job.alone (r : Cell) (c : Option Context) (script : Script) (polls : Nat) : Job :=
  (pollTimes r polls ⟨.ofBinding r c, some script, .start⟩ ((Process.fresh r).site 0 none)).1

variable {r : Cell} {shell : Shell}

theorem Shell.ofBinding_of (r : Cell) (c : Option Context) : (Shell.ofBinding r c).Of r := by
  rw [Shell.ofBinding]
  cases hs : r.strategy with
  | threadLocal => exact ⟨rfl, hs⟩
  | taskLocal => exact hs

theorem Shell.Of.binding_ofBinding (h : shell.Of r) :
    (Shell.ofBinding r (shell.binding r)).binding r = shell.binding r := by
  cases shell with
  | framed frame =>
    have hs : r.strategy = .taskLocal := h
    simp [Shell.ofBinding, Shell.binding, hs, Site.getElem?_put]
  | carried q c =>
    obtain ⟨rfl, hs⟩ := h
    simp [Shell.ofBinding, Shell.binding, hs]

/-- Whatever the order in which the jobs of a process are polled, the threads they are polled on and
the bindings there, what a job has read after some polls depends on its script and on the binding
that it was started with. -/
theorem Process.seen_run {p : Process} {i : Nat} {c : Option Context} {script : Script} {s : Site}
    {events : List Event} (uses : p.Uses r) (hj : p.jobs[i]? = some (Job.start r c script s))
    (he : ∀ e ∈ events, e.Keeps r) :
    (p.run r events).jobs[i]?.map (·.own.seen) =
      some (Job.alone r ((r.shell c s).binding r) script (events.countP (Event.polls i))).own.seen := by
  have hshell := r.shell_of c s
  have agree : Job.Agree r (Job.start r c script s)
      ⟨.ofBinding r ((r.shell c s).binding r), some script, .start⟩ :=
    ⟨hshell, Shell.ofBinding_of r _, hshell.binding_ofBinding.symm, rfl, rfl, Own.Plain.start r⟩
  obtain ⟨j, hj', same⟩ := run_agree agree uses hj he ((uses_fresh r).isLive 0 none)
  rw [hj', Job.alone, ← same.own]
  rfl

theorem Process.seen_run_two_jobs :
    let r : Cell := ⟨0, .taskLocal⟩
    let mark : Context := (∅ : Context).withShared "mark" ⟨0, ⟨.unit, ()⟩⟩
    let script : Script := .set mark (.pause (.current fun _ => .done))
    let p := (fresh r).step r (.start none script 0 none)
    let events : List Event := [.start none (.set ∅ (.pause .done)) 0 none, .poll 0 0 none,
      .poll 1 0 none, .other 1 ((fresh r).site 0 none), .poll 0 1 (some ∅)]
    p.Uses r ∧ p.jobs[0]? = some (Job.start r none script ((fresh r).site 0 none)) ∧
      (∀ e ∈ events, e.Keeps r) ∧
      (p.run r events).jobs[0]?.map (·.own.seen) = some [.current mark] := by
  intro r mark script p events
  have uses : p.Uses r := uses_fresh r
  have keeps : ∀ e ∈ events, e.Keeps r := by
    simpa [events, Event.Keeps] using (uses_fresh r).isLive 0 none
  exact ⟨uses, rfl, keeps, (seen_run uses rfl keeps).trans rfl⟩

end Ambient
