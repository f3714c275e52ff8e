import Ambient.Cell

namespace Ambient.Cell

variable {q : Cell} {s : Site}

theorem isLive_make {k : Strategy} {id : Nat} :
    (make k s).2.isLive id ↔ s.registry.next = id ∨ s.isLive id := by
  simp [make, Site.isLive]

theorem registry_retire (q : Cell) (s : Site) :
    (q.retire s).registry = ⟨s.registry.next, s.registry.live.erase q.id⟩ := by
  rw [retire]
  cases q.strategy with
  | threadLocal => rfl
  | taskLocal => rfl

theorem frame_retire (q : Cell) (s : Site) : (q.retire s).frame = s.frame := by
  rw [retire]
  cases q.strategy with
  | threadLocal => rfl
  | taskLocal => rfl

theorem isLive_retire {id : Nat} : (q.retire s).isLive id ↔ q.id ≠ id ∧ s.isLive id := by
  rw [Site.isLive, registry_retire]
  simp [Site.isLive]

theorem stack_retire (q : Cell) (s : Site) (id : Nat) :
    (q.retire s).stack id = s.stack id ∨ q.id = id ∧ (q.retire s).stack id = [] := by
  rw [retire]
  cases q.strategy with
  | threadLocal => exact .inl rfl
  | taskLocal =>
    by_cases same : q.id = id
    · subst same
      exact .inr ⟨rfl, Std.ExtTreeMap.getD_erase_self⟩
    · left
      simp [Site.stack, Std.ExtTreeMap.getD_erase, same]

end Ambient.Cell
