import Ambient.Shell

namespace Ambient

namespace Cell

variable {r : Cell} {s : Site}

@[simp] theorem registry_restore (r : Cell) (c : Option Context) (s : Site) :
    (r.restore c s).registry = s.registry := by
  rw [restore]
  split
  next => rfl
  next => split <;> rfl

@[simp] theorem isSome_frame_restore (r : Cell) (c : Option Context) (s : Site) :
    (r.restore c s).frame.isSome = s.frame.isSome := by
  rw [restore]
  split
  next => rfl
  next =>
    split
    next h => rw [h]; rfl
    next => rfl

@[simp] theorem registry_set (r : Cell) (c : Context) (s : Site) :
    (r.set c s).registry = s.registry := by
  rw [set]
  split
  next => rfl
  next => exact registry_restore r _ s

@[simp] theorem registry_remove (r : Cell) (s : Site) : (r.remove s).registry = s.registry := by
  rw [remove]
  split
  next => rfl
  next => exact registry_restore r _ s

@[simp] theorem registry_attach (r : Cell) (c : Context) (s : Site) :
    (r.attach c s).2.registry = s.registry := registry_set r c s

@[simp] theorem registry_detach (r : Cell) (t : Token) (s : Site) :
    (r.detach t s).registry = s.registry := by
  rw [detach]
  split
  next => rfl
  next =>
    split
    next => exact registry_restore r _ s
    next => rfl
    next => exact registry_restore r _ s
    next => rfl

theorem isSome_frame_set (r : Cell) (c : Context) (s : Site) :
    (r.set c s).frame.isSome = s.frame.isSome := by
  rw [set]
  split
  next => rfl
  next => exact isSome_frame_restore r _ s

theorem isSome_frame_remove (r : Cell) (s : Site) :
    (r.remove s).frame.isSome = s.frame.isSome := by
  rw [remove]
  split
  next => rfl
  next => exact isSome_frame_restore r _ s

theorem isSome_frame_detach (r : Cell) (t : Token) (s : Site) :
    (r.detach t s).frame.isSome = s.frame.isSome := by
  rw [detach]
  split
  next => rfl
  next =>
    split
    next => exact isSome_frame_restore r _ s
    next => rfl
    next => exact isSome_frame_restore r _ s
    next => rfl

section

variable (framed : r.strategy = .taskLocal → s.frame.isSome)
include framed

theorem set_eq_restore (c : Context) : r.set c s = r.restore (some c) s := by
  rw [set]
  split
  next ht hf => exact absurd (framed ht) (by simp [hf])
  next => rfl

theorem remove_eq_restore : r.remove s = r.restore none s := by
  rw [remove]
  split
  next ht hf => exact absurd (framed ht) (by simp [hf])
  next => rfl

theorem attach_eq_restore (c : Context) :
    r.attach c s = (⟨r.id, r.binding s, none⟩, r.restore (some c) s) := by
  rw [attach, set_eq_restore framed]
  split
  next ht hf => exact absurd (framed ht) (by simp [hf])
  next => rfl

end

/-- The cell is in use and its binding here is all that the unit keeps for it. -/
structure Single (r : Cell) (s : Site) : Prop where
  live : s.isLive r.id
  framed : r.strategy = .taskLocal → s.frame.isSome

theorem Single.restore (h : r.Single s) (c : Option Context) : r.Single (r.restore c s) :=
  ⟨by rw [Site.isLive, registry_restore]; exact h.live,
    fun hs => by rw [isSome_frame_restore]; exact h.framed hs⟩

theorem Single.set_eq (h : r.Single s) (c : Context) : r.set c s = r.restore (some c) s :=
  set_eq_restore h.framed c

theorem Single.remove_eq (h : r.Single s) : r.remove s = r.restore none s :=
  remove_eq_restore h.framed

theorem Single.attach_eq (h : r.Single s) (c : Context) :
    r.attach c s = (⟨r.id, r.binding s, none⟩, r.restore (some c) s) :=
  attach_eq_restore h.framed c

/-- Tokens as they are issued where the binding is single. -/
def PlainToken (r : Cell) (t : Token) : Prop := t.issuer = r.id ∧ t.depth = none

theorem Single.detach_eq (h : r.Single s) {t : Token} (ht : r.PlainToken t) :
    r.detach t s = r.restore t.previous s := by
  obtain ⟨issued, shallow⟩ := ht
  rw [detach, if_neg (not_not_intro issued), shallow]
  cases hs : r.strategy with
  | threadLocal => rfl
  | taskLocal =>
    obtain ⟨frame, hf⟩ := Option.isSome_iff_exists.1 (h.framed hs)
    simp only [hf]

def PlainGuard (r : Cell) (g : Guard) : Prop := g.cell = r ∧ ∀ t ∈ g.token, r.PlainToken t

theorem PlainGuard.ended (r : Cell) : r.PlainGuard ⟨r, none⟩ := ⟨rfl, by simp⟩

theorem Single.activate_eq (h : r.Single s) (c : Context) :
    Guard.activate r c s = (⟨r, some ⟨r.id, r.binding s, none⟩⟩, r.restore (some c) s) := by
  simp only [Guard.activate, h.attach_eq]

theorem PlainGuard.begun (r : Cell) (c : Option Context) :
    r.PlainGuard ⟨r, some ⟨r.id, c, none⟩⟩ := by
  refine ⟨rfl, ?_⟩
  rintro t ⟨⟩
  exact ⟨rfl, rfl⟩

theorem Single.finish_eq (h : r.Single s) {g : Guard} (hg : r.PlainGuard g) :
    g.finish s = (⟨r, none⟩, match g.token with
      | some t => r.restore t.previous s
      | none => s) := by
  obtain ⟨cell, token⟩ := g
  obtain ⟨rfl, plain⟩ := hg
  cases token with
  | none => rfl
  | some t => exact Prod.ext rfl (h.detach_eq (plain t rfl))

theorem Single.finish (h : r.Single s) {g : Guard} (hg : r.PlainGuard g) :
    r.Single (g.finish s).2 := by
  rw [h.finish_eq hg]
  split
  next => exact h.restore _
  next => exact h

theorem Single.binding_finish (h : r.Single s) {g : Guard} (hg : r.PlainGuard g) :
    r.binding (g.finish s).2 = (g.token.map (·.previous)).getD (r.binding s) := by
  rw [h.finish_eq hg]
  cases g.token with
  | none => rfl
  | some t => exact binding_restore h.live _

/-- Two units that cannot be told apart by work with the cell. -/
structure Agree (r : Cell) (s t : Site) : Prop where
  left : r.Single s
  right : r.Single t
  binding : r.binding s = r.binding t

theorem Agree.restore {t : Site} (h : r.Agree s t) (c : Option Context) :
    r.Agree (r.restore c s) (r.restore c t) :=
  ⟨h.left.restore c, h.right.restore c, by
    rw [binding_restore h.left.live, binding_restore h.right.live]⟩

theorem Agree.current {t : Site} (h : r.Agree s t) : r.current s = r.current t :=
  congrArg (·.getD ∅) h.binding

end Cell

namespace Guard

@[simp] theorem registry_activate (r : Cell) (c : Context) (s : Site) :
    (activate r c s).2.registry = s.registry := Cell.registry_attach r c s

@[simp] theorem registry_finish (g : Guard) (s : Site) : (g.finish s).2.registry = s.registry := by
  obtain ⟨cell, token⟩ := g
  cases token with
  | none => rfl
  | some t => exact Cell.registry_detach cell t s

theorem isSome_frame_finish (g : Guard) (s : Site) :
    (g.finish s).2.frame.isSome = s.frame.isSome := by
  obtain ⟨cell, token⟩ := g
  cases token with
  | none => rfl
  | some t => exact cell.isSome_frame_detach t s

end Guard

end Ambient
