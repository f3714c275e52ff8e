import Mathlib.Data.List.Permutation
import Ambient.Proofs.Activation

namespace Ambient

/-- Work of a unit between an attachment and its detachment. -/
inductive Stretch where
  | done
  | set (c : Context) (next : Stretch)
  | remove (next : Stretch)
  | restore (c : Option Context) (next : Stretch)
  | nested (c : Context) (inner next : Stretch)

namespace Stretch

def run (r : Cell) : Stretch → Site → Site
  | .done, s => s
  | .set c next, s => next.run r (r.set c s)
  | .remove next, s => next.run r (r.remove s)
  | .restore c next, s => next.run r (r.restore c s)
  | .nested c inner next, s =>
    let (t, s) := r.attach c s
    next.run r (r.detach t (inner.run r s))

def height : Stretch → Nat → Nat
  | .done, n => n
  | .set _ next, n => next.height (n + 1)
  | .remove next, n => next.height (n - 1)
  | .restore c next, _ => next.height c.toList.length
  | .nested _ inner next, n => next.height (min n (inner.height (n + 1)))

/-- The work, begun at some height, leaves the lowest `floor` entries of a stack alone. A restored
content replaces them all. -/
def StaysAbove (floor : Nat) : Stretch → Nat → Prop
  | .done, n => floor ≤ n
  | .set _ next, n => next.StaysAbove floor (n + 1)
  | .remove next, n => floor ≤ n - 1 ∧ next.StaysAbove floor (n - 1)
  | .restore c next, _ => floor = 0 ∧ next.StaysAbove floor c.toList.length
  | .nested _ inner next, n =>
    floor ≤ n ∧ inner.StaysAbove floor (n + 1) ∧
      next.StaysAbove floor (min n (inner.height (n + 1)))

end Stretch

namespace Cell

variable {r : Cell} {s : Site} {m : Storage}

@[simp] theorem previous_attach (r : Cell) (c : Context) (s : Site) :
    (r.attach c s).1.previous = r.binding s := rfl

theorem Rebound.detach (h : r.Rebound m s) (c : Option Context) :
    r.Rebound m (r.detach ⟨r.id, c, none⟩ s) := by
  rw [h.single.detach_eq ⟨rfl, rfl⟩]
  exact h.restore c

theorem Rebound.run (work : Stretch) (h : r.Rebound m s) : r.Rebound m (work.run r s) := by
  induction work generalizing s with
  | done => exact h
  | set c next ih =>
    rw [Stretch.run, h.single.set_eq]
    exact ih (h.restore _)
  | remove next ih =>
    rw [Stretch.run, h.single.remove_eq]
    exact ih (h.restore _)
  | restore c next ih => exact ih (h.restore c)
  | nested c inner next ihInner ihNext =>
    simp only [Stretch.run, h.single.attach_eq]
    apply ihNext
    apply Rebound.detach
    exact ihInner (h.restore _)

theorem Stacked.detach_issued (h : r.Stacked s) (c : Option Context) (height : Nat) :
    r.detach ⟨r.id, c, some height⟩ s = s.changeStack r.id (cutTo height) :=
  h.detach_eq rfl rfl

theorem Stacked.length_push (h : r.Stacked s) (c : Context) :
    ((s.changeStack r.id (c :: ·)).stack r.id).length = (s.stack r.id).length + 1 := by
  rw [h.stack_changeStack, List.length_cons]

theorem Stacked.run (work : Stretch) (h : r.Stacked s) {n : Nat}
    (hn : (s.stack r.id).length = n) :
    r.Stacked (work.run r s) ∧ ((work.run r s).stack r.id).length = work.height n := by
  induction work generalizing s n with
  | done => exact ⟨h, hn⟩
  | set c next ih =>
    rw [Stretch.run, h.set_eq]
    exact ih (h.changeStack _) (by rw [h.length_push, hn])
  | remove next ih =>
    rw [Stretch.run, h.remove_eq]
    exact ih (h.changeStack _) (by rw [h.stack_changeStack, List.length_tail, hn])
  | restore c next ih =>
    rw [Stretch.run, h.restore_eq]
    exact ih (h.changeStack _) (by rw [h.stack_changeStack])
  | nested c inner next ihInner ihNext =>
    simp only [Stretch.run, h.attach_eq]
    obtain ⟨stacked, reached⟩ := ihInner (h.changeStack (c :: ·)) (h.length_push c)
    rw [stacked.detach_issued]
    apply ihNext (stacked.changeStack _)
    rw [stacked.stack_changeStack, length_cutTo, reached, hn]

theorem Above.pop (h : r.Above m s) (high : m.stack.length ≤ (s.stack r.id).length - 1) :
    r.Above m (s.changeStack r.id List.tail) := by
  obtain ⟨above, hs⟩ := h.storage
  have lower : s.stack r.id = above ++ m.stack := congrArg Storage.stack hs
  cases above with
  | nil =>
    -- Then the lower part is the whole stack, and it is empty.
    rw [lower, List.nil_append] at high
    have empty : m.stack = [] := List.length_eq_zero_iff.1 (by omega)
    refine ⟨h.stacked.changeStack _, [], ?_⟩
    rw [h.stacked.storage_changeStack, hs, empty]
    rfl
  | cons top above =>
    refine ⟨h.stacked.changeStack _, above, ?_⟩
    rw [h.stacked.storage_changeStack, hs]
    rfl

theorem Above.replace (h : r.Above m s) (empty : m.stack.length = 0) (cs : List Context) :
    r.Above m (s.changeStack r.id fun _ => cs) := by
  obtain ⟨above, hs⟩ := h.storage
  refine ⟨h.stacked.changeStack _, cs, ?_⟩
  rw [h.stacked.storage_changeStack, hs, List.length_eq_zero_iff.1 empty]
  exact congrArg (Storage.mk _ · _) (List.append_nil cs).symm

theorem Above.run (work : Stretch) (h : r.Above m s) {n : Nat}
    (hn : (s.stack r.id).length = n) (stays : work.StaysAbove m.stack.length n) :
    r.Above m (work.run r s) := by
  induction work generalizing s n with
  | done => exact h
  | set c next ih =>
    rw [Stretch.run, h.stacked.set_eq]
    exact ih (h.push c) (by rw [h.stacked.length_push, hn]) stays
  | remove next ih =>
    obtain ⟨high, stays⟩ := stays
    rw [Stretch.run, h.stacked.remove_eq]
    apply ih (h.pop (hn ▸ high)) _ stays
    rw [h.stacked.stack_changeStack, List.length_tail, hn]
  | restore c next ih =>
    obtain ⟨empty, stays⟩ := stays
    rw [Stretch.run, h.stacked.restore_eq]
    exact ih (h.replace empty c.toList) (by rw [h.stacked.stack_changeStack]) stays
  | nested c inner next ihInner ihNext =>
    obtain ⟨high, staysInner, staysNext⟩ := stays
    subst hn
    have grown := h.stacked.length_push c
    have inside := ihInner (h.push c) grown staysInner
    obtain ⟨stacked, reached⟩ := (h.push c).stacked.run inner grown
    simp only [Stretch.run, h.stacked.attach_eq, stacked.detach_issued]
    apply ihNext (inside.cut high) _ staysNext
    rw [stacked.stack_changeStack, length_cutTo, reached]

theorem Single.storage_detach (h : r.Single s) (c : Context) (work : Stretch) :
    r.storage (r.detach (r.attach c s).1 (work.run r (r.attach c s).2)) = r.storage s := by
  rw [h.attach_eq]
  have kept := (h.rebound.restore (some c)).run work
  obtain ⟨d, hd⟩ := kept.storage
  rw [kept.single.detach_eq ⟨rfl, rfl⟩, kept.single.storage_restore, hd, Storage.put_put,
    h.put_binding]

theorem Stacked.storage_detach (h : r.Stacked s) (c : Context) (work : Stretch)
    (stays : work.StaysAbove (s.stack r.id).length ((s.stack r.id).length + 1)) :
    r.storage (r.detach (r.attach c s).1 (work.run r (r.attach c s).2)) = r.storage s := by
  rw [h.attach_eq]
  have kept := (h.above.push c).run work (h.length_push c) stays
  rw [kept.stacked.detach_eq rfl rfl]
  exact kept.storage_cut

theorem Stacked.binding_detach (h : r.Stacked s) (c : Context) (work : Stretch) :
    let after := work.run r (r.attach c s).2
    r.binding (r.detach (r.attach c s).1 after) =
      (cutTo (s.stack r.id).length (after.stack r.id)).head? := by
  rw [h.attach_eq]
  obtain ⟨stacked, -⟩ := (h.changeStack (c :: ·)).run work rfl
  simp only [stacked.detach_issued, (stacked.changeStack _).binding_eq, stacked.stack_changeStack]

theorem Single.binding_detach (h : r.Single s) (c : Context) (work : Stretch) :
    r.binding (r.detach (r.attach c s).1 (work.run r (r.attach c s).2)) = r.binding s := by
  rw [h.attach_eq]
  have kept := (h.rebound.restore (some c)).run work
  rw [kept.single.detach_eq ⟨rfl, rfl⟩, binding_restore kept.single.live]

/-- A token remembers what was found when it was issued. To detach it brings that back if and only
if the unit keeps a single binding, or the entry on top of what is left of its old stack is still
the same. All that the unit kept comes back unless the work went below the old stack. -/
theorem binding_detach_iff (live : s.isLive r.id) (c : Context) (work : Stretch) :
    let t := (r.attach c s).1
    let after := work.run r (r.attach c s).2
    let height := (s.stack r.id).length
    t.previous = r.binding s ∧
      (r.binding (r.detach t after) = t.previous ↔
        r.Single s ∨ (cutTo height (after.stack r.id)).head? = (s.stack r.id).head?) ∧
      (r.Single s ∨ work.StaysAbove height (height + 1) →
        r.storage (r.detach t after) = r.storage s) := by
  intro t after height
  refine ⟨rfl, ?_, ?_⟩
  · rw [previous_attach]
    cases single_or_stacked live with
    | inl h => simp only [h, true_or, t, after, h.binding_detach]
    | inr h =>
      rw [h.binding_detach, h.binding_eq]
      simp only [h.not_single, false_or, height, after]
  · intro kept
    cases single_or_stacked live with
    | inl h => exact h.storage_detach c work
    | inr h => exact h.storage_detach c work (kept.resolve_left h.not_single)

/-- A restored content that is unbound empties a stack of one entry, and a token that was issued on
that entry finds nothing to go back to. -/
theorem binding_detach_iff_emptied :
    let r : Cell := ⟨0, .taskLocal⟩
    let mark : Context := (∅ : Context).withShared "mark" ⟨0, ⟨.unit, ()⟩⟩
    let s := r.set mark (make .taskLocal .start).2
    let t := (r.attach ∅ s).1
    let after := Stretch.run r (.restore none .done) (r.attach ∅ s).2
    s.isLive r.id ∧ t.previous = some mark ∧ r.binding (r.detach t after) ≠ t.previous := by
  intro r mark s t after
  have live : s.isLive r.id := by cbv
  have stacked : r.Stacked s := ⟨live, rfl, rfl⟩
  have stack : s.stack r.id = [mark] := by cbv
  have left : after.stack r.id = [] := by cbv
  refine ⟨live, by cbv, ?_⟩
  have exact_condition := (binding_detach_iff live ∅ (.restore none .done)).2.1
  rw [Ne, exact_condition]
  rintro (single | same)
  · exact stacked.not_single single
  · rw [stack, left] at same
    cases same

end Cell
end Ambient
