import Ambient.Proofs.Lifetime
import Ambient.Proofs.Storage

namespace Ambient.Cell

/-- Work that takes a unit from one site to another takes nothing from the cell. -/
structure Spared (r : Cell) (s t : Site) : Prop where
  live : s.isLive r.id → t.isLive r.id
  storage : r.storage t = r.storage s

variable {q r : Cell} {s t u : Site}

theorem binding_congr (h : r.storage t = r.storage s) : r.binding t = r.binding s := by
  have slot : t.thread.slots[r.id]? = s.thread.slots[r.id]? := congrArg Storage.slot h
  have stack : t.stack r.id = s.stack r.id := congrArg Storage.stack h
  have frame : t.frame.map (·[r.id]?) = s.frame.map (·[r.id]?) := congrArg Storage.frame h
  cases hs : r.strategy with
  | threadLocal => simp only [binding, hs, slot]
  | taskLocal =>
    cases ht : t.frame with
    | none =>
      have unframed : s.frame = none := by simpa [ht] using frame.symm
      simp only [binding, hs, ht, unframed, stack]
    | some b =>
      cases hf : s.frame with
      | none => simp [ht, hf] at frame
      | some b' =>
        simp only [ht, hf, Option.map_some, Option.some.injEq] at frame
        simp only [binding, hs, ht, hf, frame]

theorem isSome_frame_congr (h : r.storage t = r.storage s) : t.frame.isSome = s.frame.isSome := by
  have frame := congrArg (·.frame.isSome) h
  simpa [storage] using frame

namespace Spared

theorem refl (r : Cell) (s : Site) : r.Spared s s := ⟨fun live => live, rfl⟩

theorem trans (h : r.Spared s t) (h' : r.Spared t u) : r.Spared s u :=
  ⟨fun live => h'.live (h.live live), h'.storage.trans h.storage⟩

section

variable (live : s.isLive r.id) (other : q.id ≠ r.id)
include live other

theorem putSlot (c : Option Context) : r.Spared s (s.putSlot q.id c) := by
  have slot : (s.putSlot q.id c).thread.slots[r.id]? = s.thread.slots[r.id]? := by
    rw [Site.getElem?_slots_putSlot, if_pos live, if_neg other]
  refine ⟨fun live => live, ?_⟩
  simp only [Cell.storage, slot]
  rfl

theorem changeStack (f : List Context → List Context) : r.Spared s (s.changeStack q.id f) := by
  have stack : (s.changeStack q.id f).stack r.id = s.stack r.id := by
    rw [Site.stack_changeStack, if_pos live, if_neg other]
  refine ⟨fun live => live, ?_⟩
  simp only [Cell.storage, stack]
  rfl

omit live in
theorem putFrame {frame : Bindings} (hf : s.frame = some frame) (c : Option Context) :
    r.Spared s { s with frame := some (Site.put frame q.id c) } := by
  have bound : (Site.put frame q.id c)[r.id]? = frame[r.id]? := by
    rw [Site.getElem?_put, if_neg other]
  refine ⟨fun live => live, ?_⟩
  simp only [Cell.storage, hf, Option.map_some, bound]
  rfl

theorem restore (c : Option Context) : r.Spared s (q.restore c s) := by
  rw [Cell.restore]
  split
  next => exact putSlot live other c
  next =>
    split
    next frame hf => exact putFrame other hf c
    next => exact changeStack live other _

theorem set (c : Context) : r.Spared s (q.set c s) := by
  rw [Cell.set]
  split
  next => exact changeStack live other _
  next => exact restore live other _

theorem remove : r.Spared s (q.remove s) := by
  rw [Cell.remove]
  split
  next => exact changeStack live other _
  next => exact restore live other _

theorem attach (c : Context) : r.Spared s (q.attach c s).2 := set live other c

theorem detach (k : Token) : r.Spared s (q.detach k s) := by
  rw [Cell.detach]
  split
  next => exact refl r s
  next =>
    split
    next => exact restore live other _
    next => exact changeStack live other _
    next => exact restore live other _
    next => exact refl r s

theorem retire : r.Spared s (q.retire s) := by
  have still : ({ s with registry.live := s.registry.live.erase q.id } : Site).isLive r.id := by
    simpa [Site.isLive, other] using live
  rw [Cell.retire]
  split
  next =>
    have struck : r.Spared s { s with registry.live := s.registry.live.erase q.id } :=
      ⟨fun _ => still, rfl⟩
    exact struck.trans (putSlot still other none)
  next =>
    refine ⟨fun _ => still, ?_⟩
    simp only [Cell.storage, Site.stack, Std.ExtTreeMap.getD_erase]
    simp [other]

end

end Spared

end Ambient.Cell
