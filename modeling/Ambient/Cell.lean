import Ambient.Site
import Ambient.Strategy

namespace Ambient

structure Cell where
  id : Nat
  strategy : Strategy
deriving DecidableEq

/-- What `detach` needs to undo an `attach`. The depth is the height of the stack before, where
the attachment went onto a stack. -/
structure Token where
  issuer : Nat
  previous : Option Context
  depth : Option Nat

namespace Cell

def make (strategy : Strategy) (s : Site) : Cell × Site :=
  let id := s.registry.next
  (⟨id, strategy⟩, { s with registry := ⟨id + 1, s.registry.live.insert id⟩ })

/-- What a unit finds in the cell: a context, or that it holds none. -/
def binding (r : Cell) (s : Site) : Option Context :=
  match r.strategy with
  | .threadLocal => s.thread.slots[r.id]?
  | .taskLocal =>
    match s.frame with
    | some frame => frame[r.id]?
    | none => (s.stack r.id).head?

def current (r : Cell) (s : Site) : Context := (r.binding s).getD ∅

/-- Replaces the content. Outside tasks the stack shrinks or grows to that one entry. -/
def restore (r : Cell) (c : Option Context) (s : Site) : Site :=
  match r.strategy with
  | .threadLocal => s.putSlot r.id c
  | .taskLocal =>
    match s.frame with
    | some frame => { s with frame := some (Site.put frame r.id c) }
    | none => s.changeStack r.id fun _ => c.toList

def set (r : Cell) (c : Context) (s : Site) : Site :=
  match r.strategy, s.frame with
  | .taskLocal, none => s.changeStack r.id (c :: ·)
  | _, _ => r.restore (some c) s

def remove (r : Cell) (s : Site) : Site :=
  match r.strategy, s.frame with
  | .taskLocal, none => s.changeStack r.id List.tail
  | _, _ => r.restore none s

def attach (r : Cell) (c : Context) (s : Site) : Token × Site :=
  let depth := match r.strategy, s.frame with
    | .taskLocal, none => some (s.stack r.id).length
    | _, _ => none
  (⟨r.id, r.binding s, depth⟩, r.set c s)

/-- Cuts a stack down to its lowest `height` entries. -/
def cutTo (height : Nat) (stack : List Context) : List Context := stack.drop (stack.length - height)

/-- Undoes an attachment of this cell; a token of another cell is ignored. A token with a depth
cuts this thread's stack, inside a task as well; one without is ignored outside tasks if the cell
is task-local. -/
def detach (r : Cell) (t : Token) (s : Site) : Site :=
  if t.issuer ≠ r.id then s
  else
    match r.strategy, t.depth, s.frame with
    | .threadLocal, _, _ => r.restore t.previous s
    | .taskLocal, some depth, _ => s.changeStack r.id (cutTo depth)
    | .taskLocal, none, some _ => r.restore t.previous s
    | .taskLocal, none, none => s

/-- The frame of a new task: a copy of the caller's, swept, in which the cell is bound to the given
context, or is seeded from the caller's stack where it would be unbound. Thread-local cells make
no frames. -/
def fork (r : Cell) (c : Option Context) (s : Site) : Option Bindings :=
  match r.strategy with
  | .threadLocal => none
  | .taskLocal =>
    let frame := s.sweep (s.frame.getD ∅)
    match c with
    | some c => some (frame.insert r.id c)
    | none =>
      if frame.contains r.id then some frame
      else some (Site.put frame r.id (s.stack r.id).head?)

/-- Takes a cell out of use. What this thread holds for it goes at once, what other threads and
frames hold goes when they are swept. -/
def retire (r : Cell) (s : Site) : Site :=
  let s := { s with registry.live := s.registry.live.erase r.id }
  match r.strategy with
  | .threadLocal => s.putSlot r.id none
  | .taskLocal => { s with thread.stackOf := s.thread.stackOf.erase r.id }

@[simp] theorem binding_restore {r : Cell} {s : Site} (live : s.isLive r.id) (c : Option Context) :
    r.binding (r.restore c s) = c := by
  unfold restore
  split
  next h => simp [binding, h, Site.getElem?_slots_putSlot, live]
  next h =>
    split
    next => simp [binding, h, Site.getElem?_put]
    next hf =>
      have hf' : (s.changeStack r.id fun _ => c.toList).frame = none := hf
      simp [binding, h, hf', Site.stack_changeStack, live]

@[simp] theorem binding_set {r : Cell} {s : Site} (live : s.isLive r.id) (c : Context) :
    r.binding (r.set c s) = some c := by
  unfold set
  split
  next h hf =>
    have hf' : (s.changeStack r.id (c :: ·)).frame = none := hf
    simp [binding, h, hf', Site.stack_changeStack, live]
  next => exact binding_restore live (some c)

theorem detach_of_ne {r : Cell} {t : Token} (h : t.issuer ≠ r.id) (s : Site) : r.detach t s = s :=
  if_pos h

theorem exists_fork {r : Cell} (hs : r.strategy = .taskLocal) (c : Option Context) (s : Site) :
    ∃ frame, r.fork c s = some frame := by
  rw [fork, hs]
  cases c with
  | some c => exact ⟨_, rfl⟩
  | none =>
    simp only
    split <;> exact ⟨_, rfl⟩

@[simp] theorem cutTo_append (above below : List Context) :
    cutTo below.length (above ++ below) = below := by
  simp [cutTo]

theorem cutTo_of_length_le {height : Nat} {stack : List Context} (h : stack.length ≤ height) :
    cutTo height stack = stack := by
  simp [cutTo, Nat.sub_eq_zero_of_le h]

end Cell
end Ambient
