import Ambient.Proofs.Single

namespace Ambient

namespace Guard

def finishAll : List Guard → Site → Site
  | [], s => s
  | g :: gs, s => finishAll gs (g.finish s).2

/-- Finishes the guard of a number, which is kept among the others. -/
def finishAt (i : Nat) (gs : List Guard) (s : Site) : List Guard × Site :=
  match gs[i]? with
  | none => (gs, s)
  | some g => (gs.set i (g.finish s).1, (g.finish s).2)

@[simp] theorem registry_finishAll (gs : List Guard) (s : Site) :
    (finishAll gs s).registry = s.registry := by
  induction gs generalizing s with
  | nil => rfl
  | cons g gs ih => rw [finishAll, ih, registry_finish]

@[simp] theorem registry_finishAt (i : Nat) (gs : List Guard) (s : Site) :
    (finishAt i gs s).2.registry = s.registry := by
  rw [finishAt]
  cases gs[i]? with
  | none => rfl
  | some g => exact registry_finish g s

theorem forall_finishAt {P : Guard → Prop} {gs : List Guard} (h : ∀ g ∈ gs, P g) {s : Site}
    (hf : ∀ g ∈ gs, P (g.finish s).1) (i : Nat) : ∀ g ∈ (finishAt i gs s).1, P g := by
  rw [finishAt]
  cases hi : gs[i]? with
  | none => exact h
  | some g =>
    intro g' hg'
    rcases List.mem_or_eq_of_mem_set hg' with hg' | rfl
    · exact h g' hg'
    · exact hf g (List.mem_of_getElem? hi)

/-- The token that is used last when guards are finished in this order. -/
def lastToken (gs : List Guard) : Option Token := (gs.filterMap (·.token)).getLast?

end Guard

namespace Cell

variable {r : Cell} {s t : Site} {gs : List Guard}

theorem Single.finishAll (h : r.Single s) (hgs : ∀ g ∈ gs, r.PlainGuard g) :
    r.Single (Guard.finishAll gs s) := by
  induction gs generalizing s with
  | nil => exact h
  | cons g gs ih =>
    simp only [List.mem_cons, forall_eq_or_imp] at hgs
    exact ih (h.finish hgs.1) hgs.2

theorem Single.binding_finishAll (h : r.Single s) (hgs : ∀ g ∈ gs, r.PlainGuard g) :
    r.binding (Guard.finishAll gs s) =
      ((Guard.lastToken gs).map (·.previous)).getD (r.binding s) := by
  induction gs generalizing s with
  | nil => rfl
  | cons g gs ih =>
    simp only [List.mem_cons, forall_eq_or_imp] at hgs
    rw [Guard.finishAll, ih (h.finish hgs.1) hgs.2, h.binding_finish hgs.1]
    -- An open guard here matters only if no later one is open.
    cases hg : g.token with
    | none => simp [Guard.lastToken, hg]
    | some t =>
      simp only [Guard.lastToken, List.filterMap_cons, hg, List.getLast?_cons]
      cases (gs.filterMap (·.token)).getLast? <;> rfl

theorem Agree.finish (h : r.Agree s t) {g : Guard} (hg : r.PlainGuard g) :
    (g.finish s).1 = (g.finish t).1 ∧ r.Agree (g.finish s).2 (g.finish t).2 := by
  refine ⟨?_, h.left.finish hg, h.right.finish hg, ?_⟩
  · rw [h.left.finish_eq hg, h.right.finish_eq hg]
  · rw [h.left.binding_finish hg, h.right.binding_finish hg, h.binding]

theorem Agree.finishAll (h : r.Agree s t) (hgs : ∀ g ∈ gs, r.PlainGuard g) :
    r.Agree (Guard.finishAll gs s) (Guard.finishAll gs t) :=
  ⟨h.left.finishAll hgs, h.right.finishAll hgs, by
    rw [h.left.binding_finishAll hgs, h.right.binding_finishAll hgs, h.binding]⟩

theorem Single.plain_finish (h : r.Single s) {g : Guard} (hg : r.PlainGuard g) :
    r.PlainGuard (g.finish s).1 := by
  rw [h.finish_eq hg]
  exact PlainGuard.ended r

theorem Single.plain_finishAt (h : r.Single s) (hgs : ∀ g ∈ gs, r.PlainGuard g) (i : Nat) :
    ∀ g ∈ (Guard.finishAt i gs s).1, r.PlainGuard g :=
  Guard.forall_finishAt hgs (fun g hg => h.plain_finish (hgs g hg)) i

theorem Agree.finishAt (h : r.Agree s t) (hgs : ∀ g ∈ gs, r.PlainGuard g) (i : Nat) :
    (Guard.finishAt i gs s).1 = (Guard.finishAt i gs t).1 ∧
      r.Agree (Guard.finishAt i gs s).2 (Guard.finishAt i gs t).2 := by
  rw [Guard.finishAt, Guard.finishAt]
  cases hi : gs[i]? with
  | none => exact ⟨rfl, h⟩
  | some g =>
    obtain ⟨same, agree⟩ := h.finish (hgs g (List.mem_of_getElem? hi))
    exact ⟨congrArg (gs.set i) same, agree⟩

end Cell

end Ambient
