import Ambient.Proofs.Inheritance

namespace Ambient

/-- Takes a snapshot as the last thing before every pause, and as the first thing after it. -/
def Script.probed : Script → Script
  | .done => .done
  | .pause next => .snapshot fun _ => .pause (.snapshot fun _ => next.probed)
  | .current next => .current fun c => (next c).probed
  | .snapshot next => .snapshot fun c => (next c).probed
  | .set c next => .set c next.probed
  | .remove next => .remove next.probed
  | .restore c next => .restore c next.probed
  | .attach c next => .attach c next.probed
  | .detach i next => .detach i next.probed
  | .activate c next => .activate c next.probed
  | .finish i next => .finish i next.probed

/-- What is found after a pause where this was left before it. -/
def Cell.resumed (r : Cell) (a : Option Context) : Option Context :=
  match r.strategy with
  | .taskLocal => a
  | .threadLocal => some (a.getD ∅)

structure Job.Probed (r : Cell) (j : Job) : Prop where
  shell : j.shell.Of r
  plain : j.own.Plain r
  script {script : Script} : j.script = some script → ∃ x : Script, script = x.probed

/-- It paused right after it had taken a snapshot, and takes another one when it goes on. -/
structure Job.Suspended (r : Cell) (a : Option Context) (j : Job) : Prop where
  shell : j.shell.Of r
  brought : j.shell.binding r = r.resumed a
  seen : j.own.seen.getLast? = some (.snapshot a)
  script : ∃ x : Script, j.script = some (.snapshot fun _ => x.probed)

variable {r : Cell} {s : Site} {j : Job} {a : Option Context}

theorem Cell.resumed_eq_iff (r : Cell) (a : Option Context) :
    r.resumed a = a ↔ r.strategy = .taskLocal ∨ a.isSome := by
  rw [resumed]
  cases r.strategy with
  | taskLocal => simp
  | threadLocal => cases a <;> simp

theorem Cell.getD_resumed (r : Cell) (a : Option Context) : (r.resumed a).getD ∅ = a.getD ∅ := by
  rw [resumed]
  cases r.strategy with
  | taskLocal => rfl
  | threadLocal => rfl

structure Own.Alike (own own' : Own) : Prop where
  tokens : own.tokens = own'.tokens
  guards : own.guards = own'.guards

namespace Own.Alike

variable {own own' : Own}

theorem refl (own : Own) : own.Alike own := ⟨rfl, rfl⟩

theorem see (h : own.Alike own') (x y : Reading) : (own.see x).Alike (own'.see y) :=
  ⟨h.tokens, h.guards⟩

theorem attach (h : own.Alike own') (t : Token) :
    Own.Alike { own with tokens := own.tokens ++ [t] } { own' with tokens := own'.tokens ++ [t] } :=
  ⟨congrArg (· ++ [t]) h.tokens, h.guards⟩

theorem activate (h : own.Alike own') (g : Guard) :
    Own.Alike { own with guards := own.guards ++ [g] } { own' with guards := own'.guards ++ [g] } :=
  ⟨h.tokens, congrArg (· ++ [g]) h.guards⟩

theorem detach (h : own.Alike own') (r : Cell) (i : Nat) (s : Site) :
    (own.detach r i s).1.Alike (own'.detach r i s).1 ∧
      (own.detach r i s).2 = (own'.detach r i s).2 := by
  rw [Own.detach, Own.detach, h.tokens]
  cases own'.tokens[i]? with
  | none => exact ⟨h, rfl⟩
  | some t => exact ⟨⟨rfl, h.guards⟩, rfl⟩

theorem finish (h : own.Alike own') (i : Nat) (s : Site) :
    (own.finish i s).1.Alike (own'.finish i s).1 ∧ (own.finish i s).2 = (own'.finish i s).2 := by
  rw [Own.finish, Own.finish, h.guards]
  exact ⟨⟨h.tokens, rfl⟩, rfl⟩

end Own.Alike

/-- Taking the snapshots changes nothing but what is seen. -/
theorem Script.follow_probed (script : Script) {own own' : Own} (h : own.Alike own') (s : Site) :
    let x := script.follow r own s
    let y := script.probed.follow r own' s
    y.1.1 = x.1.1.map (fun rest => .snapshot fun _ => rest.probed) ∧ x.1.2.Alike y.1.2 ∧
      x.2 = y.2 := by
  induction script generalizing own own' s with
  | done =>
    simp only [probed, follow, h.guards]
    exact ⟨rfl, ⟨h.tokens, rfl⟩, trivial⟩
  | pause next => exact ⟨rfl, ⟨h.tokens, h.guards⟩, rfl⟩
  | current next ih | snapshot next ih => exact ih _ (h.see _ _) s
  | set c next ih | remove next ih | restore c next ih => exact ih h _
  | attach c next ih => exact ih (h.attach _) _
  | detach i next ih =>
    obtain ⟨alike, same⟩ := h.detach r i s
    simp only [probed, follow, same]
    exact ih alike _
  | activate c next ih => exact ih (h.activate _) _
  | finish i next ih =>
    obtain ⟨alike, same⟩ := h.finish i s
    simp only [probed, follow, same]
    exact ih alike _

theorem Script.getLast?_seen_probed (script : Script) (own : Own) (s : Site)
    (paused : (script.probed.follow r own s).1.1.isSome) :
    (script.probed.follow r own s).1.2.seen.getLast? =
      some (.snapshot (r.binding (script.probed.follow r own s).2)) := by
  induction script generalizing own s with
  | done => cases paused
  | pause next => exact List.getLast?_concat
  | current next ih | snapshot next ih => exact ih _ _ _ paused
  | set c next ih | remove next ih | restore c next ih => exact ih _ _ paused
  | attach c next ih | detach i next ih | activate c next ih | finish i next ih =>
    exact ih _ _ paused

namespace Job

theorem Probed.start (r : Cell) (c : Option Context) (script : Script) (s : Site) :
    (Job.start r c script.probed s).Probed r := by
  refine ⟨r.shell_of c s, Own.Plain.start r, ?_⟩
  rintro _ ⟨⟩
  exact ⟨script, rfl⟩

theorem Probed.poll (h : j.Probed r) (live : s.isLive r.id) : (j.poll r s).1.Probed r := by
  have again := (Agree.refl h.shell h.plain).poll live live
  refine ⟨again.left, again.plain, fun {rest} paused => ?_⟩
  cases hj : j.script with
  | none =>
    simp only [Job.poll, hj] at paused
    cases paused
  | some script =>
    obtain ⟨x, rfl⟩ := h.script hj
    rw [poll_eq hj, (x.follow_probed (.refl j.own) _).1] at paused
    obtain ⟨y, -, rfl⟩ := Option.map_eq_some_iff.1 paused
    -- To take a snapshot before anything else is what some script does that takes them around pauses.
    exact ⟨.snapshot fun _ => y, rfl⟩

theorem Probed.suspended (h : j.Probed r) (live : s.isLive r.id)
    (paused : (j.poll r s).1.script.isSome) : ∃ a, (j.poll r s).1.Suspended r a := by
  cases hj : j.script with
  | none => simp [Job.poll, hj] at paused
  | some script =>
    obtain ⟨x, rfl⟩ := h.script hj
    rw [poll_eq hj] at paused ⊢
    have last := x.getLast?_seen_probed _ _ paused
    obtain ⟨rest, there⟩ := Option.isSome_iff_exists.1 paused
    have going := (x.follow_probed (r := r) (.refl j.own) (j.shell.enter s).2).1
    obtain ⟨y, -, rfl⟩ := Option.map_eq_some_iff.1 (going.symm.trans there)
    have entered := (h.shell.enter live).1
    have single := (x.probed.follow_agree h.plain ⟨entered, entered, rfl⟩).2.2.left
    obtain ⟨shell, brought⟩ := h.shell.leave (s := s) single
    exact ⟨_, shell, brought, last, y, there⟩

theorem Suspended.seen_poll (h : j.Suspended r a) (live : s.isLive r.id) :
    (j.poll r s).1.own.seen[j.own.seen.length]? = some (.snapshot (r.resumed a)) := by
  obtain ⟨x, hj⟩ := h.script
  have found := (h.shell.enter live).2
  rw [h.brought] at found
  rw [poll_eq hj, ← found]
  exact Own.getElem?_of_see (x.probed.seen_prefix_follow _ _)

end Job

/-- A task that is started in any way and has come to any of its pauses, with snapshots taken around
them all, finds its cell after the pause as it left it before, wherever it was polled and whatever
went on in between, if and only if it has a frame of its own or did not leave the cell unbound. What
it left unbound it finds bound to the empty context otherwise. -/
theorem Process.snapshot_resumed_iff {p : Process} {i : Nat} {c : Option Context} {script : Script}
    {s₀ : Site} {events between : List Event} (uses : p.Uses r)
    (hj : p.jobs[i]? = some (Job.start r c script.probed s₀)) (he : ∀ e ∈ events, e.Keeps r)
    (hb : ∀ e ∈ between, e.Keeps r ∧ e.polls i = false) (thread thread' : Nat)
    (host host' : Option Bindings) :
    let p₁ := (p.run r events).step r (.poll i thread host)
    let p₂ := (p₁.run r between).step r (.poll i thread' host')
    ∀ j, p₁.jobs[i]? = some j → j.script.isSome →
      ∃ a j' b, j.own.seen.getLast? = some (.snapshot a) ∧ p₂.jobs[i]? = some j' ∧
        j'.own.seen[j.own.seen.length]? = some (.snapshot b) ∧ b.getD ∅ = a.getD ∅ ∧
        (b = a ↔ r.strategy = .taskLocal ∨ a.isSome) := by
  intro p₁ p₂ j hj₁ paused
  obtain ⟨j₀, hj₀, probed⟩ :=
    jobs_run (P := Job.Probed r) Job.Probed.poll (.start r c script s₀) uses hj he
  have uses₀ := uses.run he
  obtain ⟨name, frame, polled⟩ :=
    step_of_polls r (e := .poll i thread host) hj₀ (by simp [Event.polls])
  obtain rfl := Option.some.inj (hj₁.symm.trans polled)
  obtain ⟨a, suspended⟩ := probed.suspended (uses₀.isLive name frame) paused
  have uses₁ : p₁.Uses r := uses₀.step trivial
  have kept := jobs_run_of_not_polls r hj₁ fun e h => (hb e h).2
  have uses₂ := uses₁.run fun e h => (hb e h).1
  obtain ⟨name', frame', hj₂⟩ :=
    step_of_polls r (e := .poll i thread' host') kept (by simp [Event.polls])
  exact ⟨a, _, _, suspended.seen, hj₂, suspended.seen_poll (uses₂.isLive name' frame'),
    r.getD_resumed a, r.resumed_eq_iff a⟩

theorem Process.snapshot_resumed_iff_of_removed :
    let r : Cell := ⟨0, .threadLocal⟩
    let script : Script := .remove (.pause .done)
    let p := (fresh r).step r (.start none script.probed 0 none)
    let events : List Event := [.other 1 (r.set ∅ ((fresh r).site 1 none))]
    let p₁ := (p.run r events).step r (.poll 0 0 none)
    let p₂ := (p₁.run r events).step r (.poll 0 1 none)
    let j : Job := ⟨.carried r ∅, some (.snapshot fun _ => .done), ⟨[], [], [.snapshot none]⟩⟩
    p.Uses r ∧ p.jobs[0]? = some (Job.start r none script.probed ((fresh r).site 0 none)) ∧
      (∀ e ∈ events, e.Keeps r ∧ e.polls 0 = false) ∧ p₁.jobs[0]? = some j ∧ j.script.isSome ∧
      ∃ j', p₂.jobs[0]? = some j' ∧ j'.own.seen[1]? = some (.snapshot (some ∅)) := by
  intro r script p events p₁ p₂ j
  have live : ((fresh r).site 1 none).isLive r.id := (uses_fresh r).isLive 1 none
  have uses : p.Uses r := uses_fresh r
  have keeps : ∀ e ∈ events, e.Keeps r ∧ e.polls 0 = false := by
    simpa [events, Event.Keeps, Event.polls, Site.isLive] using live
  have paused : p₁.jobs[0]? = some j := by cbv
  obtain ⟨a, j', b, left, polled, found, same, kept⟩ :=
    snapshot_resumed_iff uses rfl (fun e h => (keeps e h).1) keeps 0 1 none none j paused rfl
  obtain rfl : none = a := by simpa [j] using left
  have bound : b.isSome := by
    have changed : b ≠ none := fun h => by simpa [r] using kept.1 h
    exact Option.isSome_iff_ne_none.2 changed
  obtain ⟨c, rfl⟩ := Option.isSome_iff_exists.1 bound
  obtain rfl : c = ∅ := same
  exact ⟨uses, rfl, keeps, paused, rfl, j', polled, found⟩

end Ambient
