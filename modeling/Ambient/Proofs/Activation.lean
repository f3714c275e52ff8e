import Mathlib.Data.List.Permutation
import Ambient.Proofs.Body
import Ambient.Proofs.Storage

namespace Ambient

namespace Cell

variable {r : Cell} {s : Site} {m : Storage}

/-- The unit keeps what it kept before but for the one binding that matters. -/
structure Rebound (r : Cell) (before : Storage) (s : Site) : Prop where
  single : r.Single s
  storage : ∃ c, r.storage s = before.put r.strategy c

theorem Single.rebound (h : r.Single s) : r.Rebound (r.storage s) s :=
  ⟨h, r.binding s, h.put_binding.symm⟩

theorem Rebound.restore (h : r.Rebound m s) (c : Option Context) :
    r.Rebound m (r.restore c s) := by
  obtain ⟨d, hd⟩ := h.storage
  exact ⟨h.single.restore c, c, by rw [h.single.storage_restore, hd, Storage.put_put]⟩

theorem Rebound.finish (h : r.Rebound m s) {g : Guard} (hg : r.PlainGuard g) :
    r.Rebound m (g.finish s).2 := by
  rw [h.single.finish_eq hg]
  cases g.token with
  | none => exact h
  | some t => exact h.restore t.previous

theorem Rebound.invariant (r : Cell) (m : Storage) :
    Body.Invariant r (r.Rebound m) r.PlainGuard where
  set c h := by
    rw [h.single.set_eq]
    exact h.restore (some c)
  activate c h := by
    rw [h.single.activate_eq]
    exact ⟨PlainGuard.begun r _, h.restore (some c)⟩
  finish hg h := ⟨h.single.plain_finish hg, h.finish hg⟩

theorem Single.storage_finish (h : r.Single s) (c : Context) (body : Body) :
    let g := (Guard.activate r c s).1
    let after := (body.call r (Guard.activate r c s).2).2
    r.storage (g.finish after).2 = r.storage s := by
  intro g after
  have begun := ((Rebound.invariant r _).activate c h.rebound).2
  have kept : r.Rebound (r.storage s) after := (Rebound.invariant r _).call body begun
  obtain ⟨d, hd⟩ := kept.storage
  have opened : g = ⟨r, some ⟨r.id, r.binding s, none⟩⟩ := congrArg Prod.fst (h.activate_eq c)
  have undone : (g.finish after).2 = r.restore (r.binding s) after := by
    rw [opened]
    exact congrArg Prod.snd (kept.single.finish_eq (PlainGuard.begun r _))
  rw [undone, kept.single.storage_restore, hd, Storage.put_put, h.put_binding]

/-- The unit keeps what it kept before under the contexts that came onto its stack since. -/
structure Above (r : Cell) (before : Storage) (s : Site) : Prop where
  stacked : r.Stacked s
  storage : ∃ above, r.storage s = { before with stack := above ++ before.stack }

def TokenAbove (r : Cell) (height : Nat) (t : Token) : Prop :=
  t.issuer = r.id ∧ ∃ depth, t.depth = some depth ∧ height ≤ depth

def GuardAbove (r : Cell) (height : Nat) (g : Guard) : Prop :=
  g.cell = r ∧ ∀ t ∈ g.token, r.TokenAbove height t

theorem Stacked.above (h : r.Stacked s) : r.Above (r.storage s) s := ⟨h, [], rfl⟩

theorem Above.length_le (h : r.Above m s) : m.stack.length ≤ (s.stack r.id).length := by
  obtain ⟨above, hs⟩ := h.storage
  have lower : s.stack r.id = above ++ m.stack := congrArg Storage.stack hs
  rw [lower, List.length_append]
  exact Nat.le_add_left _ _

theorem Above.push (h : r.Above m s) (c : Context) :
    r.Above m (s.changeStack r.id (c :: ·)) := by
  obtain ⟨above, hs⟩ := h.storage
  exact ⟨h.stacked.changeStack _, c :: above, by
    rw [h.stacked.storage_changeStack, hs, List.cons_append]⟩

theorem Above.cut (h : r.Above m s) {depth : Nat} (deep : m.stack.length ≤ depth) :
    r.Above m (s.changeStack r.id (cutTo depth)) := by
  obtain ⟨above, hs⟩ := h.storage
  exact ⟨h.stacked.changeStack _, cutTo (depth - m.stack.length) above, by
    rw [h.stacked.storage_changeStack, hs, cutTo_append_of_le deep]⟩

theorem Above.storage_cut (h : r.Above m s) :
    r.storage (s.changeStack r.id (cutTo m.stack.length)) = m := by
  obtain ⟨above, hs⟩ := h.storage
  rw [h.stacked.storage_changeStack, hs, cutTo_append]

theorem Above.activate (h : r.Above m s) (c : Context) :
    r.GuardAbove m.stack.length (Guard.activate r c s).1 ∧
      r.Above m (Guard.activate r c s).2 := by
  rw [Guard.activate, h.stacked.attach_eq]
  refine ⟨⟨rfl, ?_⟩, h.push c⟩
  rintro t ⟨⟩
  exact ⟨rfl, _, rfl, h.length_le⟩

theorem Above.finish (h : r.Above m s) {g : Guard} (hg : r.GuardAbove m.stack.length g) :
    r.GuardAbove m.stack.length (g.finish s).1 ∧ r.Above m (g.finish s).2 := by
  obtain ⟨cell, token⟩ := g
  obtain ⟨rfl, tokens⟩ := hg
  cases token with
  | none => exact ⟨⟨rfl, tokens⟩, h⟩
  | some t =>
    obtain ⟨issued, depth, ht, deep⟩ := tokens t rfl
    have ended : cell.GuardAbove m.stack.length ⟨cell, none⟩ := ⟨rfl, by simp⟩
    have cut : (Guard.finish ⟨cell, some t⟩ s).2 = s.changeStack cell.id (cutTo depth) :=
      h.stacked.detach_eq issued ht
    exact ⟨ended, cut ▸ h.cut deep⟩

theorem Above.invariant (r : Cell) (m : Storage) :
    Body.Invariant r (r.Above m) (r.GuardAbove m.stack.length) where
  set c h := by
    rw [h.stacked.set_eq]
    exact h.push c
  activate c h := h.activate c
  finish hg h := h.finish hg

theorem Stacked.storage_finish (h : r.Stacked s) (c : Context) (body : Body) :
    let g := (Guard.activate r c s).1
    let after := (body.call r (Guard.activate r c s).2).2
    r.storage (g.finish after).2 = r.storage s := by
  intro g after
  have kept : r.Above (r.storage s) after :=
    (Above.invariant r _).call body (h.above.activate c).2
  have opened : g = ⟨r, some ⟨r.id, r.binding s, some (s.stack r.id).length⟩⟩ := by
    simp only [g, Guard.activate, h.attach_eq]
  -- The guard itself cuts at the height where its body began, so all that is above goes.
  have undone : (g.finish after).2 = after.changeStack r.id (cutTo (r.storage s).stack.length) := by
    rw [opened]
    exact kept.stacked.detach_eq rfl rfl
  rw [undone, kept.storage_cut]

theorem storage_within (live : s.isLive r.id) (c : Context) (body : Body) :
    r.storage (r.within c (body.call r) s).2 = r.storage s := by
  cases single_or_stacked live with
  | inl h => exact h.storage_finish c body
  | inr h => exact h.storage_finish c body

/-- A guard activated around a body, or `within`, puts back all that the unit keeps for the cell,
and once the guard has ended it does nothing more. -/
theorem storage_finish_call (live : s.isLive r.id) (c : Context) (body : Body) :
    let g := (Guard.activate r c s).1
    let after := (body.call r (Guard.activate r c s).2).2
    r.storage (g.finish after).2 = r.storage s ∧
      (∀ t, (g.finish after).1.finish t = ((g.finish after).1, t)) ∧
      r.storage (r.within c (body.call r) s).2 = r.storage s := by
  intro g after
  have restored : r.storage (g.finish after).2 = r.storage s := storage_within live c body
  exact ⟨restored, g.finish_of_ended after, restored⟩

/-- The body leaves a context behind, ends its guards out of order and fails in a nested block. -/
theorem storage_finish_call_of_failed :
    let r : Cell := ⟨0, .taskLocal⟩
    let mark : Context := (∅ : Context).withShared "mark" ⟨0, ⟨.unit, ()⟩⟩
    let s := r.set mark (make .taskLocal .start).2
    let body : Body := .set ∅ (.activate mark (.block
      (.activate ∅ (.finish 0 (.set ∅ (.stop (.failed "lost"))))) .stop))
    let g := (Guard.activate r ∅ s).1
    let out := body.call r (Guard.activate r ∅ s).2
    s.isLive r.id ∧ out.1 = .failed "lost" ∧ (r.storage out.2).stack = [∅, ∅, ∅, mark] ∧
      r.storage (g.finish out.2).2 = ⟨none, [mark], none⟩ := by
  intro r mark s body g out
  have live : s.isLive r.id := by cbv
  have before : r.storage s = ⟨none, [mark], none⟩ := by cbv
  have left : (r.storage out.2).stack = [∅, ∅, ∅, mark] := by cbv
  exact ⟨live, rfl, left, (storage_finish_call live ∅ body).1.trans before⟩

end Cell

end Ambient
