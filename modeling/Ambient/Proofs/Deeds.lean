import Ambient.Proofs.Commons

namespace Ambient

namespace Deed

/-- Starts no task and keeps the cell in use. -/
def Ordinary : Deed → Prop
  | .fork _ | .retire => False
  | _ => True

/-- What the unit has before it after an ordinary deed. -/
def act (r : Cell) (tokens : List (Option (Nat × Token))) (s : Site) : Deed → Site
  | .set c => r.set c s
  | .remove => r.remove s
  | .restore c => r.restore c s
  | .attach c => (r.attach c s).2
  | .detach j =>
    match tokens[j]? with
    | some (some (_, t)) => r.detach t s
    | _ => s
  | .fork _ | .retire => s

/-- The tokens that there are after an ordinary deed with the cell of a number. -/
def exchange (i : Nat) (r : Cell) (s : Site) (tokens : List (Option (Nat × Token))) :
    Deed → List (Option (Nat × Token))
  | .attach c => tokens ++ [some (i, (r.attach c s).1)]
  | .detach j => tokens.set j none
  | _ => tokens

variable {r : Cell} {s : Site} {tokens : List (Option (Nat × Token))} {d : Deed}

theorem isSome_frame_act (d : Deed) : (d.act r tokens s).frame.isSome = s.frame.isSome := by
  cases d with
  | set c | attach c => exact r.isSome_frame_set c s
  | remove => exact r.isSome_frame_remove s
  | restore c => exact r.isSome_frame_restore c s
  | detach j =>
    rw [act]
    split
    next => exact r.isSome_frame_detach _ s
    next => rfl
  | fork c | retire => rfl

theorem act_detach_of_absent {j : Nat} (absent : ∀ x, tokens[j]? ≠ some (some x)) :
    act r tokens s (.detach j) = s := by
  rw [act]
  split
  next h => exact absurd h (absent _)
  next => rfl

theorem act_detach {j : Nat} {x : Nat × Token} (h : tokens[j]? = some (some x)) :
    act r tokens s (.detach j) = r.detach x.2 s := by
  simp only [act, h]

theorem length_exchange {tokens' : List (Option (Nat × Token))} {t : Site} (i : Nat) (d : Deed)
    (h : tokens.length = tokens'.length) :
    (d.exchange i r s tokens).length = (d.exchange i r t tokens').length := by
  cases d with
  | attach c => rw [exchange, exchange, List.length_append, List.length_append, h]; rfl
  | detach j => rw [exchange, exchange, List.length_set, List.length_set, h]
  | set c | remove | restore c | fork c | retire => exact h

/-- A token that is there after a deed was there before, or the deed was its attachment. -/
theorem getElem?_exchange {i j : Nat} {x : Nat × Token}
    (h : (d.exchange i r s tokens)[j]? = some (some x)) :
    tokens[j]? = some (some x) ∨ ∃ c, d = .attach c ∧ x = (i, (r.attach c s).1) := by
  cases d with
  | set c | remove | restore c | fork c | retire => exact .inl h
  | attach c =>
    rw [exchange, List.getElem?_append] at h
    split at h
    next => exact .inl h
    next =>
      have new := List.mem_of_getElem? h
      simp only [List.mem_singleton, Option.some.injEq] at new
      exact .inr ⟨c, rfl, new⟩
  | detach k =>
    rw [exchange, List.getElem?_set] at h
    split at h
    next => split at h <;> simp at h
    next => exact .inl h

theorem getElem?_exchange_of_ne {i j : Nat} {x : Option (Nat × Token)} (h : tokens[j]? = some x)
    (kept : d ≠ .detach j) : (d.exchange i r s tokens)[j]? = some x := by
  cases d with
  | set c | remove | restore c | fork c | retire => exact h
  | attach c => exact (List.getElem?_append_left (List.getElem?_eq_some_iff.1 h).1).trans h
  | detach k =>
    have other : k ≠ j := fun same => kept (congrArg detach same)
    exact (List.getElem?_set_ne other).trans h

end Deed

namespace Commons

def does (w : Commons) (i : Nat) (u : Post) (deeds : List Deed) : Commons :=
  w.run (deeds.map (.deed i u))

variable {w : Commons} {i : Nat} {r : Cell} {u : Post} {s : Site} {d : Deed} {deeds : List Deed}

theorem does_nil (w : Commons) (i : Nat) (u : Post) : w.does i u [] = w := rfl

theorem does_cons (w : Commons) (i : Nat) (u : Post) (d : Deed) (deeds : List Deed) :
    w.does i u (d :: deeds) = (w.step (.deed i u d)).does i u deeds := rfl

theorem registry_perform (i : Nat) (r : Cell) (hu : w.site? u = some s) (kept : d ≠ .retire) :
    (w.perform i r u s d).registry = w.registry := by
  rw [← registry_of_site? hu]
  cases d with
  | set c => exact r.registry_set c s
  | remove => exact r.registry_remove s
  | restore c => exact r.registry_restore c s
  | attach c => exact r.registry_attach c s
  | retire => exact absurd rfl kept
  | detach j =>
    rw [perform]
    split
    next => rw [registry_of_site? hu]
    next => rw [registry_of_site? hu]
    next t _ => exact r.registry_detach t s
  | fork c =>
    rw [perform]
    split
    next => rw [registry_of_site? hu]
    next => rw [registry_of_site? hu]

theorem Holds.deed (holds : w.Holds i r) (hu : w.site? u = some s) (h : d.Ordinary) :
    (w.step (.deed i u d)).Holds i r := by
  rw [step_deed holds hu, Holds, cells_perform, registry_perform i r hu]
  · exact holds
  · rintro rfl
    exact h

theorem site?_deed (holds : w.Holds i r) (hu : w.site? u = some s) (h : d.Ordinary) :
    (w.step (.deed i u d)).site? u = some (d.act r w.tokens s) := by
  rw [step_deed holds hu]
  have there : (w.put u (d.act r w.tokens s)).site? u = some (d.act r w.tokens s) :=
    site?_put_self hu d.isSome_frame_act
  cases d with
  | set c | remove | restore c | attach c => exact there
  | fork c | retire => exact h.elim
  | detach j =>
    rw [perform]
    cases hj : w.tokens[j]? with
    | none => rw [Deed.act_detach_of_absent (by simp [hj])]; exact hu
    | some x =>
      cases x with
      | none => rw [Deed.act_detach_of_absent (by simp [hj])]; exact hu
      | some x =>
        rw [Deed.act_detach hj] at there ⊢
        exact there

theorem tokens_deed (holds : w.Holds i r) (hu : w.site? u = some s) (d : Deed) :
    (w.step (.deed i u d)).tokens = d.exchange i r s w.tokens := by
  rw [step_deed holds hu]
  cases d with
  | set c | remove | restore c | attach c | retire => rfl
  | fork c =>
    rw [perform]
    split <;> rfl
  | detach j =>
    rw [perform]
    split
    next h => exact (List.set_eq_of_length_le (List.getElem?_eq_none_iff.1 h)).symm
    next h =>
      obtain ⟨inside, gone⟩ := List.getElem?_eq_some_iff.1 h
      have same := List.set_getElem_self inside
      rw [gone] at same
      exact same.symm
    next => rfl

theorem tokens_does (holds : w.Holds i r) (hu : w.site? u = some s)
    (ordinary : ∀ d ∈ deeds, d.Ordinary) {j : Nat} {x : Option (Nat × Token)}
    (h : w.tokens[j]? = some x) (kept : .detach j ∉ deeds) :
    (w.does i u deeds).tokens[j]? = some x := by
  induction deeds generalizing w s with
  | nil => exact h
  | cons d deeds ih =>
    simp only [List.mem_cons, forall_eq_or_imp, not_or] at ordinary kept
    rw [does_cons]
    apply ih (holds.deed hu ordinary.1) (site?_deed holds hu ordinary.1) ordinary.2 ?_ kept.2
    rw [tokens_deed holds hu]
    exact Deed.getElem?_exchange_of_ne h (Ne.symm kept.1)

theorem live_step {turn : Turn} {id : Nat} (live : w.registry.live.contains id)
    (kept : ∀ {i u r}, turn = .deed i u .retire → w.cells[i]? = some r → r.id ≠ id) :
    (w.step turn).registry.live.contains id := by
  cases turn with
  | make k => exact (Cell.isLive_make (s := ⟨w.registry, .fresh, none⟩) (k := k)).2 (.inr live)
  | deed i u d =>
    rcases w.step_deed_cases i u d with nothing | ⟨r, s, hr, hu, -, performed⟩
    · rw [nothing]
      exact live
    rw [performed]
    by_cases retired : d = .retire
    · subst retired
      have live' : s.isLive id := by
        rw [Site.isLive, registry_of_site? hu]
        exact live
      exact Cell.isLive_retire.2 ⟨kept rfl hr, live'⟩
    · rw [registry_perform i r hu retired]
      exact live

end Commons
end Ambient
