import Ambient.Proofs.Holding

namespace Ambient

inductive Ending where
  | completed
  | returned
  | failed (message : String)

/-- Work with a cell. What comes after a reading may depend on what was read, and what comes after
a block on how the block ended: it may go on, or end as the block did. The guards that are held are
numbered through all blocks, the oldest first. A guard that is dropped is finished. -/
inductive Body where
  | stop (how : Ending)
  | current (next : Context → Body)
  | snapshot (next : Option Context → Body)
  | set (c : Context) (next : Body)
  | activate (c : Context) (next : Body)
  | finish (guard : Nat) (next : Body)
  | block (inner : Body) (next : Ending → Body)
  | within (c : Context) (inner : Body) (next : Ending → Body)

abbrev Body.Outcome := (Ending × List Guard) × Site

/-- Leaves a block that was entered with some guards held. Those activated since are dropped, the
newest first. -/
def Body.leave (height : Nat) (x : Body.Outcome) : Body.Outcome :=
  ((x.1.1, x.1.2.take height), Guard.finishAll (x.1.2.drop height).reverse x.2)

def Body.run (r : Cell) : Body → List Guard → Site → Body.Outcome
  | .stop how, gs, s => ((how, gs), s)
  | .current next, gs, s => (next (r.current s)).run r gs s
  | .snapshot next, gs, s => (next (r.binding s)).run r gs s
  | .set c next, gs, s => next.run r gs (r.set c s)
  | .activate c next, gs, s =>
    next.run r (gs ++ [(Guard.activate r c s).1]) (Guard.activate r c s).2
  | .finish i next, gs, s => next.run r (Guard.finishAt i gs s).1 (Guard.finishAt i gs s).2
  | .block inner next, gs, s =>
    let x := leave gs.length (inner.run r gs s)
    (next x.1.1).run r x.1.2 x.2
  | .within c inner next, gs, s =>
    let x := r.within c (fun s => leave gs.length (inner.run r gs s)) s
    (next x.1.1).run r x.1.2 x.2

def Body.call (r : Cell) (body : Body) (s : Site) : Ending × Site :=
  let x := leave 0 (body.run r [] s)
  (x.1.1, x.2)

/-- What holds of a unit and of all guards before a step of a body holds after it. -/
structure Body.Invariant (r : Cell) (I : Site → Prop) (J : Guard → Prop) : Prop where
  set {s : Site} (c : Context) : I s → I (r.set c s)
  activate {s : Site} (c : Context) :
    I s → J (Guard.activate r c s).1 ∧ I (Guard.activate r c s).2
  finish {g : Guard} {s : Site} : J g → I s → J (g.finish s).1 ∧ I (g.finish s).2

namespace Body.Invariant

variable {r : Cell} {I : Site → Prop} {J : Guard → Prop} {gs : List Guard} {s : Site}

theorem finishAll (inv : Invariant r I J) (hgs : ∀ g ∈ gs, J g) (hs : I s) :
    I (Guard.finishAll gs s) := by
  induction gs generalizing s with
  | nil => exact hs
  | cons g gs ih =>
    simp only [List.mem_cons, forall_eq_or_imp] at hgs
    exact ih hgs.2 (inv.finish hgs.1 hs).2

theorem finishAt (inv : Invariant r I J) (hgs : ∀ g ∈ gs, J g) (hs : I s) (i : Nat) :
    (∀ g ∈ (Guard.finishAt i gs s).1, J g) ∧ I (Guard.finishAt i gs s).2 := by
  refine ⟨Guard.forall_finishAt hgs (fun g hg => (inv.finish (hgs g hg) hs).1) i, ?_⟩
  rw [Guard.finishAt]
  cases hi : gs[i]? with
  | none => exact hs
  | some g => exact (inv.finish (hgs g (List.mem_of_getElem? hi)) hs).2

theorem leave (inv : Invariant r I J) {x : Outcome} (h : (∀ g ∈ x.1.2, J g) ∧ I x.2)
    (height : Nat) :
    (∀ g ∈ (Body.leave height x).1.2, J g) ∧ I (Body.leave height x).2 := by
  obtain ⟨hgs, hs⟩ := h
  refine ⟨fun g hg => hgs g (List.mem_of_mem_take hg), inv.finishAll ?_ hs⟩
  intro g hg
  exact hgs g (List.mem_of_mem_drop (List.mem_reverse.1 hg))

theorem within (inv : Invariant r I J) {body : Site → Outcome} (hs : I s) (c : Context)
    (h : ∀ {s}, I s → (∀ g ∈ (body s).1.2, J g) ∧ I (body s).2) :
    (∀ g ∈ (r.within c body s).1.2, J g) ∧ I (r.within c body s).2 := by
  obtain ⟨hg, hs⟩ := inv.activate c hs
  obtain ⟨hgs, hs⟩ := h hs
  exact ⟨hgs, (inv.finish hg hs).2⟩

theorem run (inv : Invariant r I J) (body : Body) (hgs : ∀ g ∈ gs, J g) (hs : I s) :
    (∀ g ∈ (body.run r gs s).1.2, J g) ∧ I (body.run r gs s).2 := by
  induction body generalizing gs s with
  | stop how => exact ⟨hgs, hs⟩
  | current next ih => exact ih _ hgs hs
  | snapshot next ih => exact ih _ hgs hs
  | set c next ih => exact ih hgs (inv.set c hs)
  | activate c next ih =>
    obtain ⟨hg, hs'⟩ := inv.activate c hs
    refine ih ?_ hs'
    rw [List.forall_mem_append, List.forall_mem_singleton]
    exact ⟨hgs, hg⟩
  | finish i next ih =>
    obtain ⟨hgs', hs'⟩ := inv.finishAt hgs hs i
    exact ih hgs' hs'
  | block inner next ihInner ihNext =>
    obtain ⟨hgs', hs'⟩ := inv.leave (ihInner hgs hs) gs.length
    exact ihNext _ hgs' hs'
  | within c inner next ihInner ihNext =>
    obtain ⟨hgs', hs'⟩ := inv.within hs c fun hs => inv.leave (ihInner hgs hs) gs.length
    exact ihNext _ hgs' hs'

theorem call (inv : Invariant r I J) (body : Body) (hs : I s) : I (body.call r s).2 :=
  (inv.leave (inv.run body (by simp) hs) 0).2

end Body.Invariant

end Ambient
