import Mathlib.Data.List.Permutation
import Ambient.Proofs.Activity
import Ambient.Proofs.Job
import Ambient.Proofs.Lifetime

namespace Ambient

/-- What work inside a frame leaves of the thread: the stacks, but for those of retired cells. -/
structure Sheltered (s t : Site) : Prop where
  framed : t.frame.isSome
  next : s.registry.next ≤ t.registry.next
  retired (id : Nat) : id < s.registry.next → ¬ s.isLive id → ¬ t.isLive id
  proper : s.registry.Proper → t.registry.Proper
  stack (id : Nat) : s.registry.Proper →
    t.stack id = s.stack id ∨ id < t.registry.next ∧ ¬ t.isLive id ∧ t.stack id = []

variable {q r : Cell} {s t u : Site} {own : Own}

theorem Registry.proper_start : Registry.start.Proper := by
  intro id given
  cases given

namespace Cell

theorem proper_make (proper : s.registry.Proper) (k : Strategy) :
    (make k s).2.registry.Proper := by
  intro id given
  rcases isLive_make.1 given with new | live
  · exact new ▸ Nat.lt_succ_self _
  · exact Nat.lt_succ_of_lt (proper id live)

theorem proper_retire (proper : s.registry.Proper) (q : Cell) : (q.retire s).registry.Proper := by
  intro id given
  rw [registry_retire]
  exact proper id (isLive_retire.1 given).2

end Cell

namespace Sheltered

theorem of_eq (framed : t.frame.isSome) (registry : t.registry = s.registry)
    (stackOf : t.thread.stackOf = s.thread.stackOf) : Sheltered s t := by
  refine ⟨framed, registry ▸ Nat.le_refl _, fun id _ dead => ?_, fun h => registry ▸ h,
    fun id _ => .inl ?_⟩
  · rw [Site.isLive, registry]
    exact dead
  · rw [Site.stack, stackOf]
    rfl

theorem refl (framed : s.frame.isSome) : Sheltered s s := of_eq framed rfl rfl

theorem trans (h : Sheltered s t) (h' : Sheltered t u) : Sheltered s u := by
  refine ⟨h'.framed, Nat.le_trans h.next h'.next, ?_, fun proper => h'.proper (h.proper proper), ?_⟩
  · intro id old dead
    exact h'.retired id (Nat.lt_of_lt_of_le old h.next) (h.retired id old dead)
  · intro id proper
    rcases h'.stack id (h.proper proper) with same | gone
    · rcases h.stack id proper with same' | ⟨old, dead, empty⟩
      · exact .inl (same.trans same')
      · exact .inr ⟨Nat.lt_of_lt_of_le old h'.next, h'.retired id old dead, same.trans empty⟩
    · exact .inr gone

theorem before {P : Prop} (h : Sheltered s t) (rest : P ∧ Sheltered t u) : P ∧ Sheltered s u :=
  ⟨rest.1, h.trans rest.2⟩

theorem restore (framed : s.frame.isSome) (q : Cell) (c : Option Context) :
    Sheltered s (q.restore c s) := by
  refine of_eq (by simpa using framed) (by simp) ?_
  obtain ⟨frame, hf⟩ := Option.isSome_iff_exists.1 framed
  rw [Cell.restore]
  cases q.strategy with
  | threadLocal => rfl
  | taskLocal => simp only [hf]

theorem make (framed : s.frame.isSome) (k : Strategy) : Sheltered s (Cell.make k s).2 := by
  refine ⟨framed, Nat.le_succ _, ?_, fun proper => Cell.proper_make proper k, fun id _ => .inl rfl⟩
  intro id old dead
  rw [Cell.isLive_make]
  rintro (new | live)
  · exact Nat.ne_of_gt old new
  · exact dead live

theorem retire (framed : s.frame.isSome) (live : s.isLive q.id) : Sheltered s (q.retire s) := by
  have next : (q.retire s).registry.next = s.registry.next := by
    rw [Cell.registry_retire]
  refine ⟨?_, Nat.le_of_eq next.symm, ?_, fun proper => Cell.proper_retire proper q, ?_⟩
  · rw [Cell.frame_retire]
    exact framed
  · intro id old dead live'
    exact dead (Cell.isLive_retire.1 live').2
  · intro id proper
    rcases Cell.stack_retire q s id with same | ⟨rfl, empty⟩
    · exact .inl same
    · refine .inr ⟨next ▸ proper _ live, ?_, empty⟩
      intro live'
      exact (Cell.isLive_retire.1 live').1 rfl

end Sheltered

namespace Cell

theorem sheltered_detach (framed : s.frame.isSome) {k : Token} (shallow : k.depth = none)
    (q : Cell) : Sheltered s (q.detach k s) := by
  obtain ⟨frame, hf⟩ := Option.isSome_iff_exists.1 framed
  rw [detach, shallow, hf]
  split
  next => exact .refl framed
  next =>
    cases q.strategy with
    | threadLocal => exact .restore framed q _
    | taskLocal => exact .restore framed q _

theorem detach_of_threadLocal (q : Cell) (hs : q.strategy = .threadLocal) (s : Site) {k : Token}
    (issued : k.issuer = q.id) : q.detach k s = s.putSlot q.id k.previous := by
  rw [detach, if_neg (not_not_intro issued)]
  simp only [hs, restore]

end Cell

theorem Shell.Of.exists_frame {shell : Shell} (h : shell.Of r) (hs : r.strategy = .taskLocal) :
    ∃ frame, shell = .framed frame := by
  cases shell with
  | framed frame => exact ⟨frame, rfl⟩
  | carried q c => exact absurd (h.2.symm.trans hs) (by simp)

/-- What was issued inside frames: nothing to cut a stack with. -/
structure Own.Shallow (own : Own) : Prop where
  tokens : ∀ k ∈ own.tokens, k.depth = none
  guards : ∀ g ∈ own.guards, ∀ k ∈ g.token, k.depth = none

theorem Guard.sheltered_finish (framed : s.frame.isSome) {g : Guard}
    (shallow : ∀ k ∈ g.token, k.depth = none) :
    Sheltered s (g.finish s).2 ∧ ∀ k ∈ (g.finish s).1.token, k.depth = none := by
  obtain ⟨q, token⟩ := g
  cases token with
  | none => exact ⟨.refl framed, shallow⟩
  | some k => exact ⟨q.sheltered_detach framed (shallow k rfl), by simp [finish]⟩

namespace Own.Shallow

theorem start : Own.start.Shallow := ⟨by simp [Own.start], by simp [Own.start]⟩

theorem attach (h : own.Shallow) {k : Token} (shallow : k.depth = none) :
    Own.Shallow { own with tokens := own.tokens ++ [k] } := by
  refine ⟨?_, h.guards⟩
  rw [List.forall_mem_append, List.forall_mem_singleton]
  exact ⟨h.tokens, shallow⟩

theorem activate (h : own.Shallow) {g : Guard} (shallow : ∀ k ∈ g.token, k.depth = none) :
    Own.Shallow { own with guards := own.guards ++ [g] } := by
  refine ⟨h.tokens, ?_⟩
  rw [List.forall_mem_append, List.forall_mem_singleton]
  exact ⟨h.guards, shallow⟩

theorem detach (h : own.Shallow) (framed : s.frame.isSome) (q : Cell) (i : Nat) :
    (own.detach q i s).1.Shallow ∧ Sheltered s (own.detach q i s).2 := by
  rw [Own.detach]
  cases hi : own.tokens[i]? with
  | none => exact ⟨h, .refl framed⟩
  | some k =>
    have shallow := h.tokens k (List.mem_of_getElem? hi)
    have kept : Own.Shallow { own with tokens := own.tokens.eraseIdx i } :=
      ⟨fun k' hk' => h.tokens k' (List.mem_of_mem_eraseIdx hk'), h.guards⟩
    exact ⟨kept, q.sheltered_detach framed shallow⟩

theorem finish (h : own.Shallow) (framed : s.frame.isSome) (i : Nat) :
    (own.finish i s).1.Shallow ∧ Sheltered s (own.finish i s).2 := by
  have ended (g : Guard) (hg : g ∈ own.guards) := Guard.sheltered_finish framed (h.guards g hg)
  refine ⟨⟨h.tokens, Guard.forall_finishAt h.guards (fun g hg => (ended g hg).2) i⟩, ?_⟩
  rw [Own.finish, Guard.finishAt]
  cases hi : own.guards[i]? with
  | none => exact .refl framed
  | some g => exact (ended g (List.mem_of_getElem? hi)).1

end Own.Shallow

theorem Sheltered.conceal {shell : Shell} (h : Sheltered (shell.reveal s) t)
    (framed : s.frame.isSome) : Sheltered s (shell.conceal s.frame t) := by
  cases shell with
  | carried q c => exact h
  | framed frame =>
    obtain ⟨-, next, retired, proper, stack⟩ := h
    exact ⟨framed, next, retired, proper, stack⟩

theorem Remains.sheltered_drop (left : Remains) (h : own.Shallow) (framed : s.frame.isSome) :
    (left.drop own s).1.Shallow ∧ Sheltered s (left.drop own s).2 := by
  induction left generalizing own s with
  | nothing => exact ⟨h, .refl framed⟩
  | guard i next ih =>
    obtain ⟨kept, here⟩ := h.finish framed i
    exact here.before (ih kept here.framed)
  | task shell inner next ihInner ihNext =>
    have revealed : (shell.reveal s).frame.isSome := by
      cases shell with
      | framed frame => rfl
      | carried q c => exact framed
    obtain ⟨kept, within⟩ := ihInner h revealed
    have here := within.conceal framed
    exact here.before (ihNext kept here.framed)

/-- Work that stays sheltered inside any frame, and issues nothing there that cuts a stack. -/
def Contained (work : Own → Site → (Polled × Own) × Site) : Prop :=
  ∀ {own s}, own.Shallow → s.frame.isSome →
    (work own s).1.2.Shallow ∧ Sheltered s (work own s).2

namespace Contained

variable {work : Own → Site → (Polled × Own) × Site} (contained : Contained work)
include contained

/-- A task with a frame does everything in there, its end included. -/
theorem visit_framed (h : own.Shallow) (frame : Bindings) (left : Remains) (s : Site) :
    let x := (Shell.framed frame).visit work left own s
    x.1.2.Shallow ∧ (∃ frame', x.2.1 = .framed frame') ∧
      ∃ t, Sheltered { s with frame := some frame } t ∧ x.2.2 = { t with frame := s.frame } := by
  intro x
  let inside := work own { s with frame := some frame }
  let after := (inside.1.1.rids left).drop inside.1.2 inside.2
  obtain ⟨kept, here⟩ := contained h (s := { s with frame := some frame }) rfl
  obtain ⟨kept', dropped⟩ := (inside.1.1.rids left).sheltered_drop kept here.framed
  -- The frame that the poll has left is the one in which the future is dropped.
  have again : { inside.2 with frame := some (inside.2.frame.getD ∅) } = inside.2 := by
    obtain ⟨frame', hf⟩ := Option.isSome_iff_exists.1 here.framed
    rw [hf, Option.getD_some, ← hf]
  have done : x = ((inside.1.1, after.1), .framed (inside.2.frame.getD ∅),
      { after.2 with frame := s.frame }) := by
    simp only [x, after, Shell.visit, Shell.poll, Shell.enter, Visit.leave, Remains.drop,
      Shell.reveal, Shell.conceal]
    rw [again]
  rw [done]
  exact ⟨kept', ⟨_, rfl⟩, after.2, here.trans dropped, rfl⟩

theorem visit (shell : Shell) (h : own.Shallow) (framed : s.frame.isSome) (left : Remains) :
    let x := shell.visit work left own s
    x.1.2.Shallow ∧ Sheltered s x.2.2 := by
  cases shell with
  | framed frame =>
    obtain ⟨kept, -, t, here, same⟩ := contained.visit_framed h frame left s
    refine ⟨kept, ?_⟩
    have concealed : Sheltered s ((Shell.framed frame).conceal s.frame t) :=
      Sheltered.conceal here framed
    rw [same]
    exact concealed
  | carried q c =>
    have begun := Sheltered.restore framed q (some c)
    obtain ⟨kept, done⟩ := contained h begun.framed
    have ended := q.sheltered_detach done.framed (k := ⟨q.id, q.binding s, none⟩) rfl
    let inside := work own (q.restore (some c) s)
    obtain ⟨kept', dropped⟩ := (inside.1.1.rids left).sheltered_drop kept ended.framed
    simp only [Shell.visit, Shell.poll, Shell.enter, Guard.activate,
      Cell.attach_eq_restore fun _ => framed]
    exact ⟨kept', ((begun.trans done).trans ended).trans dropped⟩

end Contained

theorem Activity.contained_run (a : Activity) : Contained a.run := by
  intro own s h framed
  induction a generalizing own s with
  | stop how => exact ⟨h, .refl framed⟩
  | current q next ih => exact ih _ h framed
  | snapshot q next ih => exact ih _ h framed
  | fork q c next ih => exact ih _ h framed
  | set q c next ih =>
    have here := Sheltered.restore framed q (some c)
    rw [run, Cell.set_eq_restore fun _ => framed]
    exact here.before (ih h here.framed)
  | remove q next ih =>
    have here := Sheltered.restore framed q none
    rw [run, Cell.remove_eq_restore fun _ => framed]
    exact here.before (ih h here.framed)
  | restore q c next ih =>
    have here := Sheltered.restore framed q c
    exact here.before (ih h here.framed)
  | attach q c next ih =>
    have here := Sheltered.restore framed q (some c)
    simp only [run, Cell.attach_eq_restore fun _ => framed]
    exact here.before (ih (h.attach (k := ⟨q.id, q.binding s, none⟩) rfl) here.framed)
  | detach q i next ih =>
    obtain ⟨kept, here⟩ := h.detach framed q i
    exact here.before (ih kept here.framed)
  | activate q c next ih =>
    have here := Sheltered.restore framed q (some c)
    have shallow : ∀ k ∈ some (Token.mk q.id (q.binding s) none), k.depth = none := by simp
    simp only [run, Guard.activate, Cell.attach_eq_restore fun _ => framed]
    exact here.before (ih (h.activate (g := ⟨q, some _⟩) shallow) here.framed)
  | finish i next ih =>
    obtain ⟨kept, here⟩ := h.finish framed i
    exact here.before (ih kept here.framed)
  | make k next ih =>
    have here := Sheltered.make framed k
    exact here.before (ih _ h here.framed)
  | retire q next ih =>
    have here : Sheltered s (if s.isLive q.id then q.retire s else s) := by
      split
      next live => exact .retire framed live
      next => exact .refl framed
    exact here.before (ih h here.framed)
  | visit shell inner left next ihInner ihNext =>
    obtain ⟨kept, here⟩ := Contained.visit (fun h framed => ihInner h framed) shell h framed left
    exact here.before (ihNext _ _ kept here.framed)
  | drop left next ih =>
    obtain ⟨kept, here⟩ := left.sheltered_drop h framed
    exact here.before (ih kept here.framed)

theorem Sheltered.undisturbed {frame : Bindings}
    (h : Sheltered { s with frame := some frame } t) (proper : s.registry.Proper) :
    s.Undisturbed { t with frame := s.frame } := by
  refine ⟨rfl, fun id => ?_⟩
  rcases h.stack id proper with same | ⟨-, dead, empty⟩
  · exact .inl same
  · exact .inr ⟨dead, empty⟩

namespace Errand

variable {e : Errand}

def Framed (e : Errand) : Prop := (∃ frame, e.shell = .framed frame) ∧ e.own.Shallow

theorem Framed.start (frame : Bindings) : (start (.framed frame)).Framed :=
  ⟨⟨frame, rfl⟩, .start⟩

theorem Framed.poll (h : e.Framed) (a : Activity) (left : Remains) (s : Site) :
    (e.poll a left s).1.2.Framed ∧
      (s.registry.Proper → s.Undisturbed (e.poll a left s).2) := by
  obtain ⟨shell, own⟩ := e
  obtain ⟨⟨frame, rfl⟩, shallow⟩ := h
  obtain ⟨kept, framed, t, here, same⟩ := Contained.visit_framed a.contained_run shallow frame left s
  refine ⟨⟨framed, kept⟩, fun proper => ?_⟩
  have done := here.undisturbed proper
  rw [← same] at done
  exact done

theorem Framed.pollAll (h : e.Framed) (polls : List (Activity × Site)) :
    (Errand.pollAll polls e).Framed := by
  induction polls generalizing e with
  | nil => exact h
  | cons poll polls ih => exact ih (h.poll poll.1 .nothing poll.2).1

end Errand

end Ambient
