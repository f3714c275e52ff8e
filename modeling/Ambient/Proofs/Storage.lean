import Ambient.Proofs.Single

namespace Ambient

structure Storage where
  slot : Option Context
  stack : List Context
  frame : Option (Option Context)

/-- Replaces what cells of a strategy look at where their binding is single. -/
def Storage.put (m : Storage) (k : Strategy) (c : Option Context) : Storage :=
  match k with
  | .threadLocal => { m with slot := c }
  | .taskLocal => { m with frame := some c }

@[simp] theorem Storage.put_put (m : Storage) (k : Strategy) (c d : Option Context) :
    (m.put k c).put k d = m.put k d := by
  cases k <;> rfl

namespace Cell

def storage (r : Cell) (s : Site) : Storage :=
  ⟨s.thread.slots[r.id]?, s.stack r.id, s.frame.map (·[r.id]?)⟩

variable {r : Cell} {s : Site}

theorem Single.storage_restore (h : r.Single s) (c : Option Context) :
    r.storage (r.restore c s) = (r.storage s).put r.strategy c := by
  cases hs : r.strategy with
  | threadLocal =>
    have slot : (s.putSlot r.id c).thread.slots[r.id]? = c := by
      rw [Site.getElem?_slots_putSlot, if_pos h.live, if_pos rfl]
    simp only [Cell.restore, hs, storage, Storage.put, slot]
    rfl
  | taskLocal =>
    obtain ⟨frame, hf⟩ := Option.isSome_iff_exists.1 (h.framed hs)
    have bound : (Site.put frame r.id c)[r.id]? = c := by
      rw [Site.getElem?_put, if_pos rfl]
    simp only [Cell.restore, hs, hf, storage, Storage.put, Option.map_some, bound]
    rfl

theorem Single.stack_restore (h : r.Single s) (c : Option Context) :
    (r.restore c s).stack r.id = s.stack r.id := by
  have kept := congrArg Storage.stack (h.storage_restore c)
  cases hs : r.strategy with
  | threadLocal =>
    rw [hs] at kept
    exact kept
  | taskLocal =>
    rw [hs] at kept
    exact kept

theorem Single.put_binding (h : r.Single s) :
    (r.storage s).put r.strategy (r.binding s) = r.storage s := by
  cases hs : r.strategy with
  | threadLocal => simp only [storage, Storage.put, binding, hs]
  | taskLocal =>
    obtain ⟨frame, hf⟩ := Option.isSome_iff_exists.1 (h.framed hs)
    simp only [storage, Storage.put, binding, hs, hf, Option.map_some]

/-- The cell is in use and the unit keeps a stack for it. -/
structure Stacked (r : Cell) (s : Site) : Prop where
  live : s.isLive r.id
  taskLocal : r.strategy = .taskLocal
  unframed : s.frame = none

theorem single_or_stacked (live : s.isLive r.id) : r.Single s ∨ r.Stacked s := by
  cases hs : r.strategy with
  | threadLocal => exact .inl ⟨live, by simp [hs]⟩
  | taskLocal =>
    cases hf : s.frame with
    | none => exact .inr ⟨live, hs, hf⟩
    | some frame => exact .inl ⟨live, fun _ => by rw [hf]; rfl⟩

theorem Stacked.changeStack (h : r.Stacked s) (f : List Context → List Context) :
    r.Stacked (s.changeStack r.id f) := ⟨h.live, h.taskLocal, h.unframed⟩

theorem storage_changeStack (live : s.isLive r.id) (f : List Context → List Context) :
    r.storage (s.changeStack r.id f) = { r.storage s with stack := f (r.storage s).stack } := by
  simp only [storage, Site.stack_changeStack, live]
  rfl

theorem Stacked.storage_changeStack (h : r.Stacked s) (f : List Context → List Context) :
    r.storage (s.changeStack r.id f) = { r.storage s with stack := f (r.storage s).stack } :=
  Cell.storage_changeStack h.live f

theorem Stacked.not_single (h : r.Stacked s) : ¬ r.Single s := by
  intro single
  have framed := single.framed h.taskLocal
  rw [h.unframed] at framed
  cases framed

theorem Stacked.binding_eq (h : r.Stacked s) : r.binding s = (s.stack r.id).head? := by
  simp only [binding, h.taskLocal, h.unframed]

theorem Stacked.stack_changeStack (h : r.Stacked s) (f : List Context → List Context) :
    (s.changeStack r.id f).stack r.id = f (s.stack r.id) := by
  rw [Site.stack_changeStack, if_pos h.live, if_pos rfl]

theorem Stacked.restore_eq (h : r.Stacked s) (c : Option Context) :
    r.restore c s = s.changeStack r.id fun _ => c.toList := by
  simp only [restore, h.taskLocal, h.unframed]

theorem Stacked.remove_eq (h : r.Stacked s) : r.remove s = s.changeStack r.id List.tail := by
  simp only [remove, h.taskLocal, h.unframed]

theorem Stacked.binding_remove (h : r.Stacked s) :
    r.binding (r.remove s) = (s.stack r.id).tail.head? := by
  rw [h.remove_eq, (h.changeStack _).binding_eq, h.stack_changeStack]

theorem Stacked.set_eq (h : r.Stacked s) (c : Context) :
    r.set c s = s.changeStack r.id (c :: ·) := by
  simp only [set, h.taskLocal, h.unframed]

theorem Stacked.attach_eq (h : r.Stacked s) (c : Context) :
    r.attach c s =
      (⟨r.id, r.binding s, some (s.stack r.id).length⟩, s.changeStack r.id (c :: ·)) := by
  simp only [attach, h.set_eq, h.taskLocal, h.unframed]

theorem Stacked.detach_eq (h : r.Stacked s) {t : Token} {height : Nat} (issued : t.issuer = r.id)
    (deep : t.depth = some height) : r.detach t s = s.changeStack r.id (cutTo height) := by
  simp only [detach, issued, deep, h.taskLocal, ne_eq, not_true_eq_false, if_false]

@[simp] theorem length_cutTo (height : Nat) (stack : List Context) :
    (cutTo height stack).length = min height stack.length := by
  rw [cutTo, List.length_drop]
  omega

/-- A cut above the lower part of a stack leaves that part as it is. -/
theorem cutTo_append_of_le {height : Nat} {below : List Context} (h : below.length ≤ height)
    (above : List Context) :
    cutTo height (above ++ below) = cutTo (height - below.length) above ++ below := by
  have within : above.length + below.length - height ≤ above.length := by omega
  have shift : above.length + below.length - height = above.length - (height - below.length) := by
    omega
  rw [cutTo, cutTo, List.length_append, List.drop_append_of_le_length within, shift]

end Cell

end Ambient
