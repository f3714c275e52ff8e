import Std.Data.ExtTreeSet
import Ambient.Context

namespace Ambient

abbrev Bindings := Std.ExtTreeMap Nat Context compare

abbrev Stacks := Std.ExtTreeMap Nat (List Context) compare

/-- The cells of a process: numbers below `next` have been given out, those in `live` are in use.
The counter grows without bound here; that one of 64 bits would give a number out again after 2^64
cells is left out. -/
structure Registry where
  next : Nat
  live : Std.ExtTreeSet Nat compare

def Registry.start : Registry := ⟨0, ∅⟩

structure Thread where
  slots : Bindings
  stackOf : Stacks

def Thread.fresh : Thread := ⟨∅, ∅⟩

/-- What a unit of execution has before it: the cells of the process, the thread it runs on, and
the frame of its task if it is one. -/
structure Site where
  registry : Registry
  thread : Thread
  frame : Option Bindings

namespace Site

def start : Site := ⟨.start, .fresh, none⟩

def isLive (s : Site) (id : Nat) : Bool := s.registry.live.contains id

/-- Drops what is kept for cells that are no longer in use. -/
def sweep {α : Type} (s : Site) (m : Std.ExtTreeMap Nat α compare) : Std.ExtTreeMap Nat α compare :=
  m.filter fun id _ => s.isLive id

/-- The stack of a cell on this thread; a cell without an entry has the empty stack. -/
def stack (s : Site) (id : Nat) : List Context := s.thread.stackOf.getD id []

def put (b : Bindings) (id : Nat) : Option Context → Bindings
  | some c => b.insert id c
  | none => b.erase id

def putSlot (s : Site) (id : Nat) (c : Option Context) : Site :=
  { s with thread.slots := s.sweep (put s.thread.slots id c) }

/-- Changes a stack, keeping no entry for an empty one, then sweeps the stacks. -/
def changeStack (s : Site) (id : Nat) (f : List Context → List Context) : Site :=
  let changed := match f (s.stack id) with
    | [] => s.thread.stackOf.erase id
    | c :: cs => s.thread.stackOf.insert id (c :: cs)
  { s with thread.stackOf := s.sweep changed }

theorem getElem?_sweep {α : Type} (s : Site) (m : Std.ExtTreeMap Nat α compare) (id : Nat) :
    (s.sweep m)[id]? = if s.isLive id then m[id]? else none := by
  simp only [sweep, Std.ExtTreeMap.getElem?_filter, Std.ExtTreeMap.getKey_eq]
  cases m[id]? <;> simp [Option.pfilter]

theorem getElem?_put (b : Bindings) (id other : Nat) (c : Option Context) :
    (put b id c)[other]? = if id = other then c else b[other]? := by
  cases c <;> simp [put, Std.ExtTreeMap.getElem?_insert, Std.ExtTreeMap.getElem?_erase]

theorem getElem?_slots_putSlot (s : Site) (id other : Nat) (c : Option Context) :
    (s.putSlot id c).thread.slots[other]? =
      if s.isLive other then if id = other then c else s.thread.slots[other]? else none := by
  simp only [putSlot, getElem?_sweep, getElem?_put]

theorem stack_changeStack (s : Site) (id other : Nat) (f : List Context → List Context) :
    (s.changeStack id f).stack other =
      if s.isLive other then if id = other then f (s.stack id) else s.stack other else [] := by
  simp only [stack, changeStack, Std.ExtTreeMap.getD_eq_getD_getElem?, getElem?_sweep]
  by_cases live : s.isLive other
  · rw [if_pos live, if_pos live]
    by_cases same : id = other
    · subst same
      split <;> simp_all
    · split <;> simp [Std.ExtTreeMap.getElem?_erase, Std.ExtTreeMap.getElem?_insert, same]
  · simp [live]

end Site
end Ambient
