import Mathlib.Data.List.Permutation
import Ambient.Proofs.Apart
import Ambient.Proofs.Commons

namespace Ambient.Commons

/-- A turn that is not the work of the cell with this number. The cell may be used to hand back a
token of another. -/
def Others (i : Nat) (w : Commons) : Turn → Prop
  | .make _ => True
  | .deed j _ (.detach k) => j ≠ i ∨ ∀ x, w.tokens[k]? = some (some x) → x.1 ≠ i
  | .deed j _ _ => j ≠ i

def AllOthers (i : Nat) : Commons → List Turn → Prop
  | _, [] => True
  | w, turn :: turns => w.Others i turn ∧ AllOthers i (w.step turn) turns

/-- The cell is still in use, every unit is still there, and nothing that it keeps for the cell has
changed. -/
structure Spared (i : Nat) (r : Cell) (w w' : Commons) : Prop where
  holds : w'.Holds i r
  site {u : Post} {s : Site} : w.site? u = some s → ∃ t, w'.site? u = some t ∧ r.Spared s t

variable {w w' w'' : Commons} {i j : Nat} {q r : Cell} {u v : Post} {s t : Site}

/-- A unit that spares the cell leaves what any thread keeps for it. -/
theorem threads_put (hu : w.site? u = some s) (h : r.Spared s t) (n : Nat) :
    ((w.put u t).threads n).slots[r.id]? = (w.threads n).slots[r.id]? ∧
      ((w.put u t).threads n).stackOf.getD r.id [] = (w.threads n).stackOf.getD r.id [] := by
  have slot : t.thread.slots[r.id]? = s.thread.slots[r.id]? := congrArg Storage.slot h.storage
  have stack : t.stack r.id = s.stack r.id := congrArg Storage.stack h.storage
  simp only [Site.stack, thread_of_site? hu] at slot stack
  by_cases here : n = u.thread
  · subst here
    simp only [put, ↓reduceIte]
    exact ⟨slot, stack⟩
  · simp [put, here]

theorem frames_put (hu : w.site? u = some s) (h : r.Spared s t) {k : Nat} {frame : Bindings}
    (hk : w.frames[k]? = some frame) :
    ∃ frame', (w.put u t).frames[k]? = some frame' ∧ frame'[r.id]? = frame[r.id]? := by
  rcases frames_put_cases hu t hk with kept | ⟨hs, framed, moved⟩
  · exact ⟨frame, kept, rfl⟩
  · obtain ⟨frame', ht⟩ := Option.isSome_iff_exists.1 framed
    have bound : t.frame.map (·[r.id]?) = s.frame.map (·[r.id]?) := congrArg Storage.frame h.storage
    rw [ht, hs, Option.map_some, Option.map_some, Option.some.injEq] at bound
    exact ⟨frame', moved.trans ht, bound⟩

namespace Spared

theorem refl (h : w.Holds i r) : w.Spared i r w := ⟨h, fun hu => ⟨_, hu, .refl r _⟩⟩

theorem trans (h : w.Spared i r w') (h' : w'.Spared i r w'') : w.Spared i r w'' := by
  refine ⟨h'.holds, fun hu => ?_⟩
  obtain ⟨t, ht, spared⟩ := h.site hu
  obtain ⟨t', ht', spared'⟩ := h'.site ht
  exact ⟨t', ht', spared.trans spared'⟩

theorem put (holds : w.Holds i r) (hu : w.site? u = some s) (h : r.Spared s t) :
    w.Spared i r (w.put u t) := by
  have live : (w.put u t).registry.live.contains r.id := h.live (holds.isLive hu)
  refine ⟨⟨holds.1, live⟩, fun {v s'} hv => ?_⟩
  obtain ⟨n, task⟩ := v
  obtain ⟨slot, stack⟩ := threads_put hu h n
  cases task with
  | none =>
    cases hv
    refine ⟨_, rfl, fun _ => live, ?_⟩
    simp only [Cell.storage, Site.stack, slot, stack]
  | some k =>
    obtain ⟨frame, hk, rfl⟩ := Option.map_eq_some_iff.1 hv
    obtain ⟨frame', hk', bound⟩ := frames_put hu h hk
    refine ⟨_, site?_of_frame hk', fun _ => live, ?_⟩
    simp only [Cell.storage, Site.stack, slot, stack, Option.map_some, bound]

theorem make (holds : w.Holds i r) (k : Strategy) : w.Spared i r (w.step (.make k)) := by
  obtain ⟨hr, live⟩ := holds
  have live' : (w.step (.make k)).registry.live.contains r.id :=
    (Cell.isLive_make (s := ⟨w.registry, .fresh, none⟩) (k := k)).2 (.inr live)
  have inside : i < w.cells.length := (List.getElem?_eq_some_iff.1 hr).1
  refine ⟨⟨(List.getElem?_append_left inside).trans hr, live'⟩, fun {v s'} hv => ?_⟩
  obtain ⟨n, task⟩ := v
  cases task with
  | none =>
    cases hv
    exact ⟨_, rfl, fun _ => live', rfl⟩
  | some k =>
    obtain ⟨frame, hk, rfl⟩ := Option.map_eq_some_iff.1 hv
    exact ⟨_, site?_of_frame hk, fun _ => live', rfl⟩

theorem fork (holds : w.Holds i r) (frame : Bindings) :
    w.Spared i r { w with frames := w.frames ++ [frame] } := by
  refine ⟨holds, fun {v s'} hv => ?_⟩
  obtain ⟨n, task⟩ := v
  cases task with
  | none => exact ⟨s', hv, .refl r s'⟩
  | some k =>
    obtain ⟨frame', hk, rfl⟩ := Option.map_eq_some_iff.1 hv
    have started : k < w.frames.length := (List.getElem?_eq_some_iff.1 hk).1
    exact ⟨_, site?_of_frame ((List.getElem?_append_left started).trans hk), .refl r _⟩

theorem perform (holds : w.Holds i r) (hu : w.site? u = some s) (other : q.id ≠ r.id)
    (what : Deed) : w.Spared i r (w.perform j q u s what) := by
  have live := holds.isLive hu
  cases what with
  | set c => exact put holds hu (.set live other c)
  | remove => exact put holds hu (.remove live other)
  | restore c => exact put holds hu (.restore live other c)
  | retire => exact put holds hu (.retire live other)
  | attach c =>
    have kept := put holds hu (.attach live other c)
    exact ⟨kept.holds, kept.site⟩
  | detach k =>
    rw [Commons.perform]
    split
    next => exact refl holds
    next => exact refl holds
    next t _ =>
      have kept := put holds hu (.detach live other t)
      exact ⟨kept.holds, kept.site⟩
  | fork c =>
    rw [Commons.perform]
    split
    next => exact refl holds
    next frame _ => exact fork holds frame

theorem detach (numbered : w.Numbered) (holds : w.Holds i r) (hu : w.site? u = some s) {k : Nat}
    (foreign : ∀ x, w.tokens[k]? = some (some x) → x.1 ≠ i) :
    w.Spared i r (w.perform i r u s (.detach k)) := by
  rw [Commons.perform]
  split
  next => exact refl holds
  next => exact refl holds
  next n t hk =>
    have issued : t.issuer = n := numbered.token (List.mem_of_getElem? hk)
    have other : t.issuer ≠ r.id := by
      rw [issued, numbered.cell holds.1]
      exact foreign (n, t) hk
    have kept : w.Spared i r (w.put u (r.detach t s)) := by
      rw [Cell.detach_of_ne other]
      exact put holds hu (.refl r s)
    exact ⟨kept.holds, kept.site⟩

theorem step (numbered : w.Numbered) (holds : w.Holds i r) {turn : Turn}
    (others : w.Others i turn) : w.Spared i r (w.step turn) := by
  cases turn with
  | make k => exact make holds k
  | deed j u what =>
    rcases w.step_deed_cases j u what with nothing | ⟨q, s, hq, hu, -, performed⟩
    · rw [nothing]
      exact refl holds
    rw [performed]
    by_cases same : j = i
    · subst same
      cases holds.1.symm.trans hq
      -- The only deed with the cell itself that is allowed here hands back a token of another.
      cases what with
      | detach k => exact detach numbered holds hu (others.resolve_left (not_not_intro rfl))
      | set | remove | restore | attach | fork | retire => exact absurd rfl others
    · have other : q.id ≠ r.id := by
        rw [numbered.cell hq, numbered.cell holds.1]
        exact same
      exact perform holds hu other what

theorem run (numbered : w.Numbered) (holds : w.Holds i r) {turns : List Turn}
    (others : w.AllOthers i turns) : w.Spared i r (w.run turns) := by
  induction turns generalizing w with
  | nil => exact refl holds
  | cons turn turns ih =>
    have kept := step numbered holds others.1
    exact kept.trans (ih (numbered.step turn) kept.holds others.2)

end Spared

/-- While others are made, used on any threads and in any tasks, and retired again, and while it is
handed their tokens, a cell in use stays for every unit what it was: the unit finds the same in it
and keeps the same slot, stack and binding of a frame for it. No sweep takes it from any map. -/
theorem storage_run_of_others {before after : List Turn} (holds : (start.run before).Holds i r)
    (others : (start.run before).AllOthers i after) (hu : (start.run before).site? u = some s) :
    ∃ t, ((start.run before).run after).site? u = some t ∧ r.binding t = r.binding s ∧
      r.storage t = r.storage s ∧
      ∀ {α : Type} (m : Std.ExtTreeMap Nat α compare), (t.sweep m)[r.id]? = m[r.id]? := by
  have kept := Spared.run (Numbered.start.run before) holds others
  obtain ⟨t, ht, spared⟩ := kept.site hu
  refine ⟨t, ht, Cell.binding_congr spared.storage, spared.storage, fun m => ?_⟩
  rw [Site.getElem?_sweep, if_pos (kept.holds.isLive ht)]

theorem storage_run_of_others_retired :
    let r : Cell := ⟨0, .taskLocal⟩
    let mark : Context := (∅ : Context).withShared "mark" ⟨0, ⟨.unit, ()⟩⟩
    let u : Post := ⟨0, none⟩
    let before : List Turn := [.make .taskLocal, .make .taskLocal, .deed 0 u (.set mark),
      .deed 0 u (.fork none), .deed 1 ⟨1, some 0⟩ (.attach ∅)]
    let after : List Turn := [.deed 0 u (.detach 0), .make .threadLocal, .deed 1 u (.set ∅),
      .deed 2 u (.set ∅), .deed 1 ⟨1, none⟩ .retire, .deed 2 u .remove]
    let w := start.run before
    let s : Site := ⟨w.registry, w.threads 0, none⟩
    w.Holds 0 r ∧ w.AllOthers 0 after ∧ w.site? u = some s ∧
      ∃ t, (w.run after).site? u = some t ∧ r.binding t = some mark ∧
        r.storage t = ⟨none, [mark], none⟩ := by
  intro r mark u before after w s
  have holds : w.Holds 0 r := ⟨by cbv, by cbv⟩
  have held : w.tokens[0]? = some (some (1, ⟨1, none, none⟩)) := by cbv
  have others : w.AllOthers 0 after := by
    refine ⟨.inr ?_, trivial, ?_⟩
    · intro x hx
      cases held.symm.trans hx
      decide
    · simp [AllOthers, Others]
  have found : r.storage s = ⟨none, [mark], none⟩ := by cbv
  have bound : r.binding s = some mark := by cbv
  obtain ⟨t, ht, same, kept, -⟩ := storage_run_of_others holds others (u := u) (s := s) rfl
  exact ⟨holds, others, rfl, t, ht, same.trans bound, kept.trans found⟩

end Ambient.Commons
