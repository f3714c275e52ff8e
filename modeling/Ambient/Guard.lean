import Ambient.Cell

namespace Ambient

structure Guard where
  cell : Cell
  token : Option Token

namespace Guard

def activate (r : Cell) (c : Context) (s : Site) : Guard × Site :=
  let (t, s) := r.attach c s
  (⟨r, some t⟩, s)

def isActive (g : Guard) : Bool := g.token.isSome

def finish (g : Guard) (s : Site) : Guard × Site :=
  match g.token with
  | some t => (⟨g.cell, none⟩, g.cell.detach t s)
  | none => (g, s)

@[simp] theorem isActive_finish (g : Guard) (s : Site) : (g.finish s).1.isActive = false := by
  obtain ⟨cell, _ | t⟩ := g <;> rfl

@[simp] theorem cell_finish (g : Guard) (s : Site) : (g.finish s).1.cell = g.cell := by
  obtain ⟨cell, _ | t⟩ := g <;> rfl

theorem finish_of_ended (g : Guard) (s t : Site) :
    (g.finish s).1.finish t = ((g.finish s).1, t) := by
  obtain ⟨cell, token⟩ := g
  cases token with
  | none => rfl
  | some token => rfl

end Guard

/-- Runs a body with a context activated around it, however the body comes to its end. -/
def Cell.within {α : Type} (r : Cell) (c : Context) (body : Site → α × Site) (s : Site) :
    α × Site :=
  let (g, s) := Guard.activate r c s
  let (a, s) := body s
  (a, (g.finish s).2)

/-- Work bound to the context that was current where it was bound. -/
structure Bound (α : Type) where
  cell : Cell
  context : Context
  work : α

def Cell.bind {α : Type} (r : Cell) (work : α) (s : Site) : Bound α := ⟨r, r.current s, work⟩

end Ambient
