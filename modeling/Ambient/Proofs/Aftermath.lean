import Ambient.Proofs.Apart
import Ambient.Proofs.Shelter

namespace Ambient

variable {q r : Cell} {s : Site} {own : Own} {order : List Nat} {gs : List Guard}

theorem Cell.slots_detach_of_taskLocal (hs : r.strategy = .taskLocal) (k : Token) (s : Site) :
    (r.detach k s).thread.slots = s.thread.slots := by
  rw [detach]
  split
  next => rfl
  next =>
    simp only [hs]
    split
    next => contradiction
    next => rfl
    next hf => simp only [restore, hs, hf]
    next => rfl

theorem Cell.slot_detach (hs : r.strategy = .threadLocal) (live : s.isLive r.id) (q : Cell)
    (k : Token) : (q.detach k s).thread.slots[r.id]? =
      if q = r ∧ k.issuer = r.id then k.previous else s.thread.slots[r.id]? := by
  by_cases same : q = r
  · subst same
    by_cases issued : k.issuer = q.id
    · rw [q.detach_of_threadLocal hs s issued, Site.getElem?_slots_putSlot, if_pos live, if_pos rfl,
        if_pos ⟨rfl, issued⟩]
    · rw [detach_of_ne issued, if_neg fun h => issued h.2]
  · rw [if_neg fun h => same h.1]
    cases hq : q.strategy with
    | taskLocal => rw [slots_detach_of_taskLocal hq]
    | threadLocal =>
      have other : q.id ≠ r.id := fun h => same (congrArg₂ Cell.mk h (hq.trans hs.symm))
      exact congrArg Storage.slot (Spared.detach live other k).storage

namespace Guard

theorem slot_finish (hs : r.strategy = .threadLocal) (live : s.isLive r.id) (g : Guard) :
    (g.finish s).2.thread.slots[r.id]? =
      ((g.tokenOf r).map (·.previous)).getD s.thread.slots[r.id]? := by
  obtain ⟨q, token⟩ := g
  cases token with
  | none => rfl
  | some k =>
    rw [finish, Cell.slot_detach hs live, tokenOf, Option.filter_some]
    by_cases used : q = r ∧ k.issuer = r.id
    · simp only [if_pos used, decide_eq_true used]
      rfl
    · simp only [if_neg used, decide_eq_false used]
      rfl

theorem getLast?_append_previous (ks ls : List Token) (c : Option Context) :
    ((ks ++ ls).getLast?.map (·.previous)).getD c =
      (ls.getLast?.map (·.previous)).getD ((ks.getLast?.map (·.previous)).getD c) := by
  rw [List.getLast?_append]
  cases ls.getLast? with
  | none => rfl
  | some k => rfl

theorem spent_append (order order' : List Nat) (gs : List Guard) :
    spent r (order ++ order') gs = spent r order gs ++ spent r order' (order.foldl endAt gs) := by
  induction order generalizing gs with
  | nil => rfl
  | cons i order ih => rw [List.cons_append, spent, spent, ih, List.append_assoc]; rfl

theorem getD_previous_eq_iff {used : Option Token} {c : Option Context} :
    (used.map (·.previous)).getD c = c ↔ ∀ k ∈ used, k.previous = c := by
  cases used with
  | none => simp
  | some k => simp

end Guard

theorem Own.guards_finish (i : Nat) (own : Own) (s : Site) :
    (own.finish i s).1.guards = Guard.endAt own.guards i := by
  have ended (g : Guard) : (g.finish s).1 = ⟨g.cell, none⟩ := by
    obtain ⟨q, token⟩ := g
    cases token with
    | none => rfl
    | some k => rfl
  rw [Own.finish, Guard.finishAt, Guard.endAt, List.modify_eq_set_getElem?]
  cases own.guards[i]? with
  | none => rfl
  | some g => exact congrArg (own.guards.set i) (ended g)

theorem Own.slot_finish (hs : r.strategy = .threadLocal) (live : s.isLive r.id) (i : Nat) :
    (own.finish i s).2.thread.slots[r.id]? =
      ((own.guards[i]?.bind (·.tokenOf r)).map (·.previous)).getD s.thread.slots[r.id]? := by
  rw [Own.finish, Guard.finishAt]
  cases own.guards[i]? with
  | none => rfl
  | some g => exact g.slot_finish hs live

theorem Polled.rids_nothing (how : Polled) : how.rids .nothing = .nothing := by
  cases how with
  | pending => rfl
  | ready => rfl
  | failed message => rfl

namespace Shell

@[simp] theorem registry_reveal (shell : Shell) (s : Site) :
    (shell.reveal s).registry = s.registry := by
  cases shell with
  | framed frame => rfl
  | carried q c => rfl

@[simp] theorem thread_reveal (shell : Shell) (s : Site) : (shell.reveal s).thread = s.thread := by
  cases shell with
  | framed frame => rfl
  | carried q c => rfl

@[simp] theorem registry_conceal (shell : Shell) (host : Option Bindings) (s : Site) :
    (shell.conceal host s).registry = s.registry := by
  cases shell with
  | framed frame => rfl
  | carried q c => rfl

@[simp] theorem thread_conceal (shell : Shell) (host : Option Bindings) (s : Site) :
    (shell.conceal host s).thread = s.thread := by
  cases shell with
  | framed frame => rfl
  | carried q c => rfl

end Shell

namespace Remains

theorem registry_drop (left : Remains) (own : Own) (s : Site) :
    (left.drop own s).2.registry = s.registry := by
  induction left generalizing own s with
  | nothing => rfl
  | guard i next ih => rw [drop, ih, Own.registry_finish]
  | task shell inner next ihInner ihNext =>
    rw [drop, ihNext]
    cases shell with
    | framed frame => exact ihInner own _
    | carried q c => exact ihInner own s

theorem guards_drop (left : Remains) (own : Own) (s : Site) :
    (left.drop own s).1.guards = left.guards.foldl Guard.endAt own.guards := by
  induction left generalizing own s with
  | nothing => rfl
  | guard i next ih => rw [drop, ih, Own.guards_finish]; rfl
  | task shell inner next ihInner ihNext =>
    rw [drop, ihNext, ihInner, guards, List.foldl_append]

/-- The slot has what the guard that ends last puts there. -/
theorem slot_drop (hs : r.strategy = .threadLocal) (left : Remains) (live : s.isLive r.id) :
    (left.drop own s).2.thread.slots[r.id]? =
      ((Guard.spent r left.guards own.guards).getLast?.map (·.previous)).getD
        s.thread.slots[r.id]? := by
  induction left generalizing own s with
  | nothing => rfl
  | guard i next ih =>
    have live' : (own.finish i s).2.isLive r.id := by
      rw [Site.isLive, Own.registry_finish]
      exact live
    have single (k : Option Token) : k.toList.getLast? = k := by
      cases k with
      | none => rfl
      | some k => rfl
    rw [drop, ih live', Own.guards_finish, Own.slot_finish hs live, guards, Guard.spent,
      Guard.getLast?_append_previous, single]
  | task shell inner next ihInner ihNext =>
    have live' : (shell.reveal s).isLive r.id := by
      rw [Site.isLive, Shell.registry_reveal]
      exact live
    have live'' : (shell.conceal s.frame (inner.drop own (shell.reveal s)).2).isLive r.id := by
      rw [Site.isLive, Shell.registry_conceal, registry_drop]
      exact live'
    rw [drop, ihNext live'', Shell.thread_conceal, ihInner live', Shell.thread_reveal, guards,
      Guard.spent_append, Guard.getLast?_append_previous, guards_drop]

end Remains

namespace Errand

variable {e : Errand}

/-- The guard around a poll writes back what was in the slot, and only then the future is dropped
if the poll was its last. -/
theorem slot_poll (of : e.shell.Of r) (hs : r.strategy = .threadLocal) (a : Activity)
    (left : Remains) (s : Site) :
    (e.poll a left s).1.2.shell.Of r ∧
      ((e.poll a left s).2.isLive r.id → (e.poll a left s).2.thread.slots[r.id]? =
        ((Guard.spent r ((e.poll a left s).1.1.rids left).guards
          (e.poll a .nothing s).1.2.own.guards).getLast?.map (·.previous)).getD
            s.thread.slots[r.id]?) := by
  obtain ⟨shell, own⟩ := e
  cases shell with
  | framed frame =>
    have hs' : r.strategy = .taskLocal := of
    exact absurd (hs.symm.trans hs') (by simp)
  | carried q c =>
    obtain ⟨rfl, -⟩ := of
    refine ⟨⟨rfl, hs⟩, fun live => ?_⟩
    let inside := a.run own (q.attach c s).2
    let t := inside.2.putSlot q.id (q.binding s)
    have ended : ((Guard.activate q c s).1.finish inside.2).2 = t :=
      q.detach_of_threadLocal hs inside.2 rfl
    have done : (poll a left ⟨.carried q c, own⟩ s).2 =
        ((inside.1.1.rids left).drop inside.1.2 t).2 := by
      rw [← ended]
      rfl
    have held : (poll a .nothing ⟨.carried q c, own⟩ s).1.2.own = inside.1.2 := by
      change ((inside.1.1.rids .nothing).drop inside.1.2 _).1 = inside.1.2
      rw [Polled.rids_nothing]
      rfl
    have live' : inside.2.isLive q.id := by
      rw [done, Site.isLive, Remains.registry_drop] at live
      exact live
    have back : t.thread.slots[q.id]? = s.thread.slots[q.id]? := by
      rw [Site.getElem?_slots_putSlot, if_pos live', if_pos rfl, Cell.binding, hs]
    rw [done, held, Remains.slot_drop (s := t) hs _ live', back]
    rfl

theorem of_pollAll (of : e.shell.Of r) (hs : r.strategy = .threadLocal)
    (polls : List (Activity × Site)) : (pollAll polls e).shell.Of r := by
  induction polls generalizing e with
  | nil => exact of
  | cons poll polls ih => exact ih (slot_poll of hs poll.1 .nothing poll.2).1

/-- One poll of a task that runs in a frame, or one call inside a frame, leaves the frame and the
stacks of its host as they were, whatever its body has done now and in the polls before and whatever
it leaves to be dropped. One poll of a task of a thread-local cell, which it keeps in use, leaves
the slot of the cell as it was if and only if the task goes on, or its future ends and owns no open
guard of the cell, or the one that ends last was activated over the very binding that the host
has. -/
theorem poll_undisturbed_iff (r : Cell) (c : Option Context) (s₀ : Site) (frame : Bindings)
    (earlier : List (Activity × Site)) (a : Activity) (left : Remains) (s : Site)
    (proper : s.registry.Proper) :
    let polled (left : Remains) (shell : Shell) := (pollAll earlier (start shell)).poll a left s
    let after := polled left (r.shell c s₀)
    let held := (polled .nothing (r.shell c s₀)).1.2.own.guards
    (r.strategy = .taskLocal → s.Undisturbed after.2) ∧
      s.Undisturbed (polled left (.framed frame)).2 ∧
      s.Undisturbed (s.inFrame frame (a.run .start)).2 ∧
      (r.strategy = .threadLocal → after.2.isLive r.id →
        (after.2.thread.slots[r.id]? = s.thread.slots[r.id]? ↔ after.1.1 = .pending ∨
          ∀ k ∈ (Guard.spent r left.guards held).getLast?,
            k.previous = s.thread.slots[r.id]?)) := by
  intro polled after held
  have entered (frame : Bindings) : s.Undisturbed (polled left (.framed frame)).2 :=
    (((Framed.start frame).pollAll earlier).poll a left s).2 proper
  refine ⟨fun hs => ?_, entered frame, ?_, fun hs live => ?_⟩
  · obtain ⟨forked, same⟩ := (r.shell_of c s₀).exists_frame hs
    simp only [after, same]
    exact entered forked
  · have kept := a.contained_run .start (s := { s with frame := some frame }) rfl
    exact kept.2.undisturbed proper
  · have of := of_pollAll (e := start (r.shell c s₀)) (r.shell_of c s₀) hs earlier
    have slot : after.2.thread.slots[r.id]? =
        ((Guard.spent r (after.1.1.rids left).guards held).getLast?.map (·.previous)).getD
          s.thread.slots[r.id]? := (slot_poll of hs a left s).2 live
    rw [slot, Guard.getD_previous_eq_iff]
    cases how : after.1.1 with
    | pending => simp [Polled.rids, Remains.guards, Guard.spent]
    | ready => simp [Polled.rids]
    | failed message => simp [Polled.rids]

/-- A future that waits with an open guard until its time is up. The host, where nothing was bound,
is left with the context that the task was started with. -/
theorem poll_undisturbed_iff_of_guard :
    let r : Cell := ⟨0, .threadLocal⟩
    let q : Cell := ⟨1, .taskLocal⟩
    let mark : Context := (∅ : Context).withShared "mark" ⟨0, ⟨.unit, ()⟩⟩
    let s := (Cell.make .taskLocal (Cell.make .threadLocal .start).2).2
    let earlier : List (Activity × Site) := [(.activate r mark (.stop .pending), s)]
    let a : Activity := .set q mark (.visit (.framed ∅) (.set q ∅ (.stop (.failed "lost")))
      .nothing fun _ _ => .restore q none (.set q mark (.stop .ready)))
    let polled (shell : Shell) := (pollAll earlier (start shell)).poll a (.guard 0 .nothing) s
    s.registry.Proper ∧ (polled (q.shell none s)).1.1 = .ready ∧
      s.Undisturbed (polled (q.shell none s)).2 ∧ s.thread.slots[r.id]? = none ∧
      (polled (r.shell none s)).2.isLive r.id ∧
      (polled (r.shell none s)).2.thread.slots[r.id]? ≠ none := by
  intro r q mark s earlier a polled
  have proper : s.registry.Proper :=
    Cell.proper_make (Cell.proper_make Registry.proper_start .threadLocal) .taskLocal
  have live : (polled (r.shell none s)).2.isLive r.id := by
    cbv
  have before : s.thread.slots[r.id]? = none := by
    cbv
  refine ⟨proper, rfl, (poll_undisturbed_iff q none s ∅ earlier a _ s proper).1 rfl, before,
    live, ?_⟩
  have last : (Guard.spent r [0] (((pollAll earlier (start (r.shell none s))).poll a .nothing
      s).1.2.own.guards)).getLast? = some ⟨0, some ∅, none⟩ := by
    cbv
  have law := (poll_undisturbed_iff r none s ∅ earlier a (.guard 0 .nothing) s proper).2.2.2 rfl live
  rw [before] at law
  intro unbound
  rcases law.1 unbound with pending | used
  · cases pending
  · cases used _ last

end Errand

end Ambient
