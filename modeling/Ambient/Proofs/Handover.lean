import Ambient.Proofs.Activation
import Ambient.Proofs.Deeds

namespace Ambient

def Bound.call (b : Bound Body) (s : Site) : Ending × Site :=
  b.cell.within b.context (b.work.call b.cell) s

/-- A process with the work that is bound in it, in the order of the binding. What has been called or
let go is there no more. -/
structure Pool where
  commons : Commons
  works : List (Option (Bound Body))

/-- What can happen next. As with deeds, nothing comes of the binding of work to a cell that is not in
use, or of a call where there is no such work or no such unit. -/
inductive Pool.Move where
  | turn (t : Turn)
  | bind (cell : Nat) (post : Post) (work : Body)
  | call (work : Nat) (post : Post)
  | letGo (work : Nat)

namespace Pool

def engages (p : Pool) (id : Nat) : Bool := p.works.any fun work => work.any (·.cell.id == id)

/-- A cell is not retired under the work that is bound to it. -/
def refuses (p : Pool) : Turn → Bool
  | .deed i _ .retire => p.commons.cells[i]?.any fun r => p.engages r.id
  | _ => false

def call (p : Pool) (k : Nat) (u : Post) : Option Ending × Pool :=
  match p.works[k]?, p.commons.site? u with
  | some (some b), some s =>
    let (how, s) := b.call s
    (some how, ⟨p.commons.put u s, p.works.set k none⟩)
  | _, _ => (none, p)

def step (p : Pool) : Move → Pool
  | .turn t => if p.refuses t then p else { p with commons := p.commons.step t }
  | .bind i u work =>
    match p.commons.cells[i]?, p.commons.site? u with
    | some r, some s =>
      if s.isLive r.id then { p with works := p.works ++ [some (r.bind work s)] } else p
    | _, _ => p
  | .call k u => (p.call k u).2
  | .letGo k => { p with works := p.works.set k none }

def run (p : Pool) (moves : List Move) : Pool := moves.foldl step p

end Pool

structure Site.Grounded (s t : Site) : Prop where
  registry : t.registry = s.registry
  framed : t.frame.isSome = s.frame.isSome

theorem Site.Grounded.invariant (r : Cell) (s : Site) :
    Body.Invariant r s.Grounded fun _ => True where
  set c h := ⟨(r.registry_set c _).trans h.registry, (r.isSome_frame_set c _).trans h.framed⟩
  activate c h :=
    ⟨trivial, (r.registry_attach c _).trans h.registry, (r.isSome_frame_set c _).trans h.framed⟩
  finish {g t} _ h :=
    ⟨trivial, (g.registry_finish t).trans h.registry, (g.isSome_frame_finish t).trans h.framed⟩

theorem Bound.grounded_call (b : Bound Body) (s : Site) : s.Grounded (b.call s).2 := by
  have inv := Site.Grounded.invariant b.cell s
  have begun := (inv.activate b.context ⟨rfl, rfl⟩).2
  exact (inv.finish trivial (inv.call b.work begun)).2

namespace Pool

structure Awaits (p : Pool) (k : Nat) (b : Bound Body) : Prop where
  work : p.works[k]? = some (some b)
  live : p.commons.registry.live.contains b.cell.id

variable {p : Pool} {k : Nat} {b : Bound Body} {i : Nat} {r : Cell} {u : Post} {s t : Site}

theorem engages_of_works (h : p.works[k]? = some (some b)) : p.engages b.cell.id := by
  rw [engages, List.any_eq_true]
  exact ⟨some b, List.mem_of_getElem? h, by simp⟩

theorem call_eq (hb : p.works[k]? = some (some b)) (hu : p.commons.site? u = some s) :
    p.call k u = (some (b.call s).1, ⟨p.commons.put u (b.call s).2, p.works.set k none⟩) := by
  simp only [call, hb, hu]

/-- A call comes to nothing, or some unit does the work, which is gone then. -/
theorem call_cases (p : Pool) (k : Nat) (u : Post) :
    p.call k u = (none, p) ∨ ∃ b s, p.works[k]? = some (some b) ∧ p.commons.site? u = some s ∧
      p.call k u = (some (b.call s).1, ⟨p.commons.put u (b.call s).2, p.works.set k none⟩) := by
  rw [call]
  split
  next b s hb hu => exact .inr ⟨b, s, hb, hu, rfl⟩
  next => exact .inl rfl

theorem step_bind (holds : p.commons.Holds i r) (hu : p.commons.site? u = some s) (work : Body) :
    p.step (.bind i u work) = { p with works := p.works ++ [some (r.bind work s)] } := by
  simp only [step, holds.1, hu]
  exact if_pos (holds.isLive hu)

theorem works_set {x : Option (Bound Body)} (h : p.works[k]? = some x) (j : Nat) :
    (p.works.set j none)[k]? = some x ∨ (p.works.set j none)[k]? = some none := by
  by_cases same : j = k
  · subst same
    exact .inr (List.getElem?_set_self (List.getElem?_eq_some_iff.1 h).1)
  · rw [List.getElem?_set_ne same]
    exact .inl h

theorem works_step {x : Option (Bound Body)} (h : p.works[k]? = some x) (m : Move) :
    (p.step m).works[k]? = some x ∨ (p.step m).works[k]? = some none := by
  cases m with
  | turn t =>
    rw [step]
    split
    next => exact .inl h
    next => exact .inl h
  | bind i u work =>
    rw [step]
    split
    next =>
      split
      next => exact .inl ((List.getElem?_append_left (List.getElem?_eq_some_iff.1 h).1).trans h)
      next => exact .inl h
    next => exact .inl h
  | call j u =>
    rw [step]
    rcases p.call_cases j u with nothing | ⟨b, s, -, -, done⟩
    · rw [nothing]
      exact .inl h
    · rw [done]
      exact works_set h j
  | letGo j => exact works_set h j

theorem live_step {id : Nat} (engaged : p.engages id) (live : p.commons.registry.live.contains id)
    (m : Move) : (p.step m).commons.registry.live.contains id := by
  cases m with
  | turn t =>
    rw [step]
    split
    next => exact live
    next accepted =>
      apply Commons.live_step live
      rintro i u r rfl hr rfl
      simp [refuses, hr, engaged] at accepted
  | bind i u work =>
    rw [step]
    split
    next => split <;> exact live
    next => exact live
  | call j u =>
    rw [step]
    rcases p.call_cases j u with nothing | ⟨b, s, -, hu, done⟩
    · rw [nothing]
      exact live
    · rw [done, Commons.put, (b.grounded_call s).registry, Commons.registry_of_site? hu]
      exact live
  | letGo j => exact live

theorem Awaits.step (h : p.Awaits k b) (m : Move) :
    (p.step m).Awaits k b ∨ (p.step m).works[k]? = some none := by
  apply (works_step h.work m).imp_left
  intro still
  exact ⟨still, live_step (engages_of_works h.work) h.live m⟩

theorem awaits_or_gone_run (h : p.Awaits k b ∨ p.works[k]? = some none) (moves : List Move) :
    (p.run moves).Awaits k b ∨ (p.run moves).works[k]? = some none := by
  induction moves generalizing p with
  | nil => exact h
  | cons m moves ih =>
    apply ih
    rcases h with awaits | gone
    · exact awaits.step m
    · exact .inr ((works_step gone m).elim id id)

theorem Awaits.bind (holds : p.commons.Holds i r) (hu : p.commons.site? u = some s) (work : Body) :
    (p.step (.bind i u work)).Awaits p.works.length (r.bind work s) := by
  rw [step_bind holds hu]
  exact ⟨List.getElem?_concat_length, holds.2⟩

/-- Work may be bound by any unit and called by any other, whatever goes on in between. It begins where
that is current which was current where it was bound. When it has ended, well or not, the unit that
called it keeps for the cell what it kept before. -/
theorem call_bound (holds : p.commons.Holds i r) (hu : p.commons.site? u = some s) (work : Body)
    (between : List Move) {v : Post} :
    let k := p.works.length
    let p' := (p.step (.bind i u work)).run between
    p'.works[k]? ≠ some none → p'.commons.site? v = some t →
      let g := (Guard.activate r (r.current s) t).1
      let begun := (Guard.activate r (r.current s) t).2
      let out := work.call r begun
      let after := (g.finish out.2).2
      r.current begun = r.current s ∧
        (∀ next, work = .current next → out = (next (r.current s)).call r begun) ∧
        p'.call k v = (some out.1, ⟨p'.commons.put v after, p'.works.set k none⟩) ∧
        (p'.commons.put v after).site? v = some after ∧ r.storage after = r.storage t := by
  intro k p' pending hv g begun out after
  have awaits : p'.Awaits k (r.bind work s) :=
    (awaits_or_gone_run (.inl (Awaits.bind holds hu work)) between).resolve_right pending
  have live : t.isLive r.id := by
    rw [Site.isLive, Commons.registry_of_site? hv]
    exact awaits.live
  have current : r.current begun = r.current s := congrArg (·.getD ∅) (Cell.binding_set live _)
  have grounded : t.Grounded after := (r.bind work s).grounded_call t
  refine ⟨current, ?_, call_eq awaits.work hv, Commons.site?_put_self hv grounded.framed,
    Cell.storage_within live (r.current s) work⟩
  rintro next rfl
  exact congrArg (fun c => (next c).call r begun) current

/-- The binder unbinds the cell and wants to retire the cell. The work is called by a thread that
has a stack of its own, and fails where it holds a guard. -/
theorem call_bound_of_failed :
    let r : Cell := ⟨0, .taskLocal⟩
    let mark : Context := (∅ : Context).withShared "mark" ⟨0, ⟨.unit, ()⟩⟩
    let u : Post := ⟨0, none⟩
    let v : Post := ⟨1, none⟩
    let w := (Commons.start.step (.make .taskLocal)).step (.deed 0 u (.set mark))
    let p : Pool := ⟨w, []⟩
    let s : Site := ⟨w.registry, w.threads 0, none⟩
    let work : Body := .current fun c => .set ∅ (.activate c (.stop (.failed "lost")))
    let between : List Move := [.turn (.deed 0 u (.restore none)), .turn (.deed 0 u .retire),
      .turn (.deed 0 v (.set ∅))]
    let p' := (p.step (.bind 0 u work)).run between
    let t : Site := ⟨p'.commons.registry, p'.commons.threads 1, none⟩
    w.Holds 0 r ∧ w.site? u = some s ∧ r.current s = mark ∧ p'.works[0]? ≠ some none ∧
      p'.commons.site? v = some t ∧ (p'.call 0 v).1 = some (.failed "lost") ∧
      ∃ after, (p'.call 0 v).2.commons.site? v = some after ∧ r.storage after = ⟨none, [∅], none⟩ := by
  intro r mark u v w p s work between p' t
  have holds : w.Holds 0 r := ⟨by cbv, by cbv⟩
  have pending : p'.works[0]? ≠ some none := by
    have there : p'.works[0]?.bind (·.map (·.cell)) = some r := by cbv
    intro gone
    rw [gone] at there
    cases there
  obtain ⟨-, -, called, found, restored⟩ :=
    call_bound (p := p) holds rfl work between (v := v) pending rfl
  have before : r.storage t = ⟨none, [∅], none⟩ := by cbv
  have bound : r.current s = mark := by cbv
  refine ⟨holds, rfl, bound, pending, rfl, congrArg Prod.fst called, ?_⟩
  refine ⟨_, ?_, restored.trans before⟩
  exact (congrArg (fun x => x.2.commons.site? v) called).trans found

end Pool
end Ambient
