import Mathlib.Data.List.Permutation
import Ambient.Shell

namespace Ambient

def Cell.look (q : Cell) (s : Site) : Context × Site := (q.current s, s)

variable {q r : Cell} {s : Site}

theorem Cell.getElem?_fork_other (hr : r.strategy = .taskLocal) (other : q.id ≠ r.id)
    (live : s.isLive q.id) (c : Option Context) :
    ∃ frame, r.fork c s = some frame ∧ frame[q.id]? = (s.frame.getD ∅)[q.id]? := by
  have swept : (s.sweep (s.frame.getD ∅))[q.id]? = (s.frame.getD ∅)[q.id]? := by
    rw [Site.getElem?_sweep, if_pos live]
  have apart : r.id ≠ q.id := Ne.symm other
  simp only [Cell.fork, hr]
  cases c with
  | some c =>
    refine ⟨_, rfl, ?_⟩
    rw [Std.ExtTreeMap.getElem?_insert, if_neg (by simpa using apart), swept]
  | none =>
    by_cases bound : (s.sweep (s.frame.getD ∅)).contains r.id
    · exact ⟨_, if_pos bound, swept⟩
    · refine ⟨_, if_neg bound, ?_⟩
      rw [Site.getElem?_put, if_neg apart, swept]

theorem Cell.current_of_framed (hq : q.strategy = .taskLocal) {frame : Bindings}
    (hf : s.frame = some frame) : q.current s = frame[q.id]?.getD ∅ := by
  simp only [Cell.current, Cell.binding, hq, hf]

theorem Cell.current_fork_other (hr : r.strategy = .taskLocal) (hq : q.strategy = .taskLocal)
    (other : q.id ≠ r.id) (live : s.isLive q.id) (c : Option Context) :
    ∃ frame, r.fork c s = some frame ∧
      frame[q.id]?.getD ∅ = if s.frame.isSome then q.current s else ∅ := by
  obtain ⟨frame, forked, bound⟩ := Cell.getElem?_fork_other hr other live c
  refine ⟨frame, forked, ?_⟩
  rw [bound]
  cases hf : s.frame with
  | none => simp
  | some own => simp [Cell.current_of_framed hq hf]

/-- At the start of a task that one cell makes, given a context or not, and of a call inside a frame
that it makes, another cell reads as it did for the caller if and only if the caller was a task or
read the empty context. It does not matter where the body starts. -/
theorem Cell.current_start_iff (hr : r.strategy = .taskLocal) (hq : q.strategy = .taskLocal)
    (other : q.id ≠ r.id) (live : s.isLive q.id) (c : Option Context) (t : Site) :
    (((r.shell c s).poll q.look t).1 = q.current s ↔ s.frame.isSome ∨ q.current s = ∅) ∧
      ∃ frame, r.fork c s = some frame ∧
        ((t.inFrame frame q.look).1 = q.current s ↔ s.frame.isSome ∨ q.current s = ∅) := by
  obtain ⟨frame, forked, found⟩ := Cell.current_fork_other hr hq other live c
  have inside : q.current { t with frame := some frame } = frame[q.id]?.getD ∅ :=
    Cell.current_of_framed hq rfl
  have started : frame[q.id]?.getD ∅ = q.current s ↔ s.frame.isSome ∨ q.current s = ∅ := by
    rw [found]
    cases s.frame with
    | none => simp [eq_comm]
    | some own => simp
  have polled : ((r.shell c s).poll q.look t).1 = frame[q.id]?.getD ∅ := by
    rw [Cell.shell, forked]
    exact inside
  have called : (t.inFrame frame q.look).1 = frame[q.id]?.getD ∅ := inside
  refine ⟨?_, frame, forked, ?_⟩
  · rw [polled, started]
  · rw [called, started]

theorem Cell.current_start_iff_bound_on_thread :
    let r : Cell := ⟨0, .taskLocal⟩
    let q : Cell := ⟨1, .taskLocal⟩
    let mark : Context := (∅ : Context).withShared "mark" ⟨0, ⟨.unit, ()⟩⟩
    let s := q.set mark (make .taskLocal (make .taskLocal .start).2).2
    q.id ≠ r.id ∧ s.isLive q.id ∧ q.current s = mark ∧
      ((r.shell (some mark) s).poll q.look s).1 ≠ q.current s ∧
      ∃ frame, r.fork none s = some frame ∧ (s.inFrame frame q.look).1 ≠ q.current s := by
  intro r q mark s
  have other : q.id ≠ r.id := by decide
  have live : s.isLive q.id := by cbv
  have bound : q.current s = mark := by cbv
  have lost : ¬ (s.frame.isSome ∨ q.current s = ∅) := by
    rintro (framed | empty)
    · cases framed
    · have := congrArg (·.shared? "mark") (bound.symm.trans empty)
      simp [mark] at this
  obtain ⟨frame, forked, called⟩ := (current_start_iff rfl rfl other live none s).2
  refine ⟨other, live, bound, ?_, frame, forked, ?_⟩
  · rw [Ne, (current_start_iff rfl rfl other live (some mark) s).1]
    exact lost
  · rw [Ne, called]
    exact lost

end Ambient
