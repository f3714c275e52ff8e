import Mathlib.Data.List.Permutation
import Ambient.Proofs.Process

namespace Ambient

variable {r : Cell} {s : Site} {j : Job} {gs : List Guard}

theorem Cell.Single.thread_restore (h : r.Single s) (hs : r.strategy = .taskLocal)
    (c : Option Context) : (r.restore c s).thread = s.thread := by
  obtain ⟨frame, hf⟩ := Option.isSome_iff_exists.1 (h.framed hs)
  simp only [Cell.restore, hs, hf]

theorem Cell.Single.thread_finishAll (h : r.Single s) (hs : r.strategy = .taskLocal)
    (hgs : ∀ g ∈ gs, r.PlainGuard g) : (Guard.finishAll gs s).thread = s.thread := by
  induction gs generalizing s with
  | nil => rfl
  | cons g gs ih =>
    simp only [List.mem_cons, forall_eq_or_imp] at hgs
    rw [Guard.finishAll, ih (h.finish hgs.1) hgs.2, h.finish_eq hgs.1]
    cases g.token with
    | none => rfl
    | some t => exact h.thread_restore hs _

theorem Job.drop_of_taskLocal (h : j.shell.Of r) (hs : r.strategy = .taskLocal)
    (live : s.isLive r.id) (hgs : ∀ g ∈ gs, r.PlainGuard g) : j.drop gs s = s := by
  obtain ⟨shell, script, own⟩ := j
  cases shell with
  | carried q c => exact absurd (h.2.symm.trans hs) (by simp)
  | framed frame =>
    have single : r.Single ({ s with frame := some frame } : Site) := ⟨live, fun _ => rfl⟩
    have registry := Guard.registry_finishAll gs { s with frame := some frame }
    have thread := single.thread_finishAll hs hgs
    simp only [drop, Shell.drop, Shell.reveal, Shell.conceal]
    rw [registry, thread]

theorem Job.binding_drop_of_threadLocal (h : j.shell.Of r) (hs : r.strategy = .threadLocal)
    (live : s.isLive r.id) (hgs : ∀ g ∈ gs, r.PlainGuard g) :
    r.binding (j.drop gs s) = ((Guard.lastToken gs).map (·.previous)).getD (r.binding s) := by
  obtain ⟨shell, script, own⟩ := j
  cases shell with
  | framed frame =>
    have hs' : r.strategy = .taskLocal := h
    exact absurd (hs.symm.trans hs') (by simp)
  | carried q c =>
    have single : r.Single s := ⟨live, by simp [hs]⟩
    exact single.binding_finishAll hgs

/-- A task that is dropped at any point of its run, by any unit, leaves what that unit finds in the
cell as it was if and only if the task has a frame, or has no open guard, or the guard that is ended
last was activated over the very binding that the unit has. -/
theorem Process.binding_drop_iff {p : Process} {i : Nat} {c : Option Context} {script : Script}
    {s₀ : Site} {events : List Event} (uses : p.Uses r)
    (hj : p.jobs[i]? = some (Job.start r c script s₀)) (he : ∀ e ∈ events, e.Keeps r)
    (hj' : (p.run r events).jobs[i]? = some j) (hgs : gs.Perm j.own.guards)
    (live : s.isLive r.id) :
    r.binding (j.drop gs s) = r.binding s ↔
      r.strategy = .taskLocal ∨ ∀ t ∈ Guard.lastToken gs, t.previous = r.binding s := by
  have start := Job.Agree.refl (j := Job.start r c script s₀) (r.shell_of c s₀) (Own.Plain.start r)
  obtain ⟨j', found, same⟩ := run_agree start uses hj he live
  obtain rfl : j = j' := Option.some.inj (hj'.symm.trans found)
  have plain : ∀ g ∈ gs, r.PlainGuard g := fun g hg => same.plain.guards g (hgs.mem_iff.1 hg)
  cases hs : r.strategy with
  | taskLocal => simp [Job.drop_of_taskLocal same.left hs live plain]
  | threadLocal =>
    rw [Job.binding_drop_of_threadLocal same.left hs live plain]
    cases Guard.lastToken gs with
    | none => simp
    | some t => simp

/-- A guard that a task activated over the empty context unbinds the mark of the thread on which
the task is dropped. -/
theorem Process.binding_drop_iff_open_guard :
    let r : Cell := ⟨0, .threadLocal⟩
    let mark : Context := (∅ : Context).withShared "mark" ⟨0, ⟨.unit, ()⟩⟩
    let script : Script := .activate mark (.pause .done)
    let p := (fresh r).step r (.start none script 0 none)
    let events : List Event := [.poll 0 0 none]
    let j : Job := ⟨.carried r mark, some .done, ⟨[], [⟨r, some ⟨0, some ∅, none⟩⟩], []⟩⟩
    let s := r.restore (some mark) ((fresh r).site 1 none)
    p.Uses r ∧ p.jobs[0]? = some (Job.start r none script ((fresh r).site 0 none)) ∧
      (∀ e ∈ events, e.Keeps r) ∧ (p.run r events).jobs[0]? = some j ∧
      j.own.guards.Perm j.own.guards ∧ s.isLive r.id ∧
      r.binding (j.drop j.own.guards s) ≠ r.binding s := by
  intro r mark script p events j s
  have uses : p.Uses r := uses_fresh r
  have live : s.isLive r.id := (uses_fresh r).isLive 1 none
  have keeps : ∀ e ∈ events, e.Keeps r := by simp [events, Event.Keeps]
  have polled : (p.run r events).jobs[0]? = some j := by cbv
  refine ⟨uses, rfl, keeps, polled, .refl _, live, ?_⟩
  rw [Ne, binding_drop_iff uses rfl keeps polled (.refl _) live]
  have found : r.binding s = some mark :=
    Cell.binding_restore ((uses_fresh r).isLive 1 none) _
  rintro (hs | hs)
  · cases hs
  · have same : (∅ : Context) = mark := Option.some.inj ((hs ⟨0, some ∅, none⟩ rfl).trans found)
    have := congrArg (·.shared? "mark") same
    simp [mark] at this

end Ambient
