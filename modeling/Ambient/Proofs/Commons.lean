import Ambient.Proofs.Lifetime
import Ambient.Proofs.Single

namespace Ambient

/-- A unit of execution: a thread outside its tasks, or a task on the thread that it runs on. -/
structure Post where
  thread : Nat
  task : Option Nat

/-- Tokens are kept with the cell that issued them, until they are handed back. -/
structure Commons where
  registry : Registry
  threads : Nat → Thread
  frames : List Bindings
  cells : List Cell
  tokens : List (Option (Nat × Token))

/-- What a unit does with a cell. To hand back a token it may use any cell, not just the one that
issued it. To fork is to start a task with a frame of its own. -/
inductive Deed where
  | set (c : Context)
  | remove
  | restore (c : Option Context)
  | attach (c : Context)
  | detach (token : Nat)
  | fork (c : Option Context)
  | retire

/-- What can happen next. A deed with a cell that is not in use, or by a unit that does not exist,
comes to nothing. -/
inductive Turn where
  | make (k : Strategy)
  | deed (cell : Nat) (post : Post) (what : Deed)

namespace Commons

def start : Commons := ⟨.start, fun _ => .fresh, [], [], []⟩

def site? (w : Commons) (u : Post) : Option Site :=
  match u.task with
  | none => some ⟨w.registry, w.threads u.thread, none⟩
  | some i => w.frames[i]?.map fun frame => ⟨w.registry, w.threads u.thread, some frame⟩

/-- What the process has become when a unit has gone over to a site. -/
def put (w : Commons) (u : Post) (s : Site) : Commons :=
  { w with
    registry := s.registry
    threads := fun n => if n = u.thread then s.thread else w.threads n
    frames := match u.task, s.frame with
      | some i, some frame => w.frames.set i frame
      | _, _ => w.frames }

def perform (w : Commons) (i : Nat) (r : Cell) (u : Post) (s : Site) : Deed → Commons
  | .set c => w.put u (r.set c s)
  | .remove => w.put u (r.remove s)
  | .restore c => w.put u (r.restore c s)
  | .attach c =>
    { w.put u (r.attach c s).2 with tokens := w.tokens ++ [some (i, (r.attach c s).1)] }
  | .detach j =>
    match w.tokens[j]? with
    | none | some none => w
    | some (some (_, t)) => { w.put u (r.detach t s) with tokens := w.tokens.set j none }
  | .fork c =>
    match r.fork c s with
    | none => w
    | some frame => { w with frames := w.frames ++ [frame] }
  | .retire => w.put u (r.retire s)

def step (w : Commons) : Turn → Commons
  | .make k =>
    let (r, s) := Cell.make k ⟨w.registry, .fresh, none⟩
    { w with registry := s.registry, cells := w.cells ++ [r] }
  | .deed i u what =>
    match w.cells[i]?, w.site? u with
    | some r, some s => if s.isLive r.id then w.perform i r u s what else w
    | _, _ => w

def run (w : Commons) (turns : List Turn) : Commons := turns.foldl step w

def Holds (w : Commons) (i : Nat) (r : Cell) : Prop :=
  w.cells[i]? = some r ∧ w.registry.live.contains r.id

/-- Cells bear the numbers in which they were made, and tokens that of the cell they are from. -/
structure Numbered (w : Commons) : Prop where
  next : w.registry.next = w.cells.length
  cell {i : Nat} {r : Cell} : w.cells[i]? = some r → r.id = i
  token {i : Nat} {t : Token} : some (i, t) ∈ w.tokens → t.issuer = i

inductive Exchanged (i : Nat) (r : Cell) (tokens : List (Option (Nat × Token))) :
    List (Option (Nat × Token)) → Prop
  | kept : Exchanged i r tokens tokens
  | issued {t : Token} (h : t.issuer = r.id) : Exchanged i r tokens (tokens ++ [some (i, t)])
  | spent (j : Nat) : Exchanged i r tokens (tokens.set j none)

variable {w : Commons} {i : Nat} {r : Cell} {u : Post} {s : Site}

theorem run_cons (w : Commons) (turn : Turn) (turns : List Turn) :
    w.run (turn :: turns) = (w.step turn).run turns := rfl

/-- A deed comes to nothing, or a unit performs it with a cell in use. -/
theorem step_deed_cases (w : Commons) (i : Nat) (u : Post) (what : Deed) :
    w.step (.deed i u what) = w ∨ ∃ r s, w.cells[i]? = some r ∧ w.site? u = some s ∧
      s.isLive r.id ∧ w.step (.deed i u what) = w.perform i r u s what := by
  simp only [step]
  cases hr : w.cells[i]? with
  | none => exact .inl rfl
  | some r =>
    cases hs : w.site? u with
    | none => exact .inl rfl
    | some s =>
      by_cases live : s.isLive r.id
      · exact .inr ⟨r, s, rfl, rfl, live, if_pos live⟩
      · exact .inl (if_neg live)

theorem registry_of_site? (h : w.site? u = some s) : s.registry = w.registry := by
  obtain ⟨n, task⟩ := u
  cases task with
  | none =>
    cases h
    rfl
  | some k =>
    obtain ⟨frame, -, rfl⟩ := Option.map_eq_some_iff.1 h
    rfl

theorem thread_of_site? (h : w.site? u = some s) : s.thread = w.threads u.thread := by
  obtain ⟨n, task⟩ := u
  cases task with
  | none =>
    cases h
    rfl
  | some k =>
    obtain ⟨frame, -, rfl⟩ := Option.map_eq_some_iff.1 h
    rfl

theorem site?_of_frame {n k : Nat} {frame : Bindings} (h : w.frames[k]? = some frame) :
    w.site? ⟨n, some k⟩ = some ⟨w.registry, w.threads n, some frame⟩ := by
  simp only [site?, h, Option.map_some]

theorem Holds.isLive (h : w.Holds i r) (hu : w.site? u = some s) : s.isLive r.id := by
  rw [Site.isLive, registry_of_site? hu]
  exact h.2

theorem step_deed (h : w.Holds i r) (hu : w.site? u = some s) (what : Deed) :
    w.step (.deed i u what) = w.perform i r u s what := by
  simp only [step, h.1, hu]
  exact if_pos (h.isLive hu)

theorem site?_put_self {t : Site} (hu : w.site? u = some s)
    (framed : t.frame.isSome = s.frame.isSome) : (w.put u t).site? u = some t := by
  obtain ⟨n, task⟩ := u
  obtain ⟨registry, thread, frame⟩ := t
  cases task with
  | none =>
    cases hu
    obtain rfl : frame = none := by simpa using framed
    simp [site?, put]
  | some k =>
    obtain ⟨b, hk, rfl⟩ := Option.map_eq_some_iff.1 hu
    obtain ⟨b', rfl⟩ := Option.isSome_iff_exists.1 framed
    have started : k < w.frames.length := (List.getElem?_eq_some_iff.1 hk).1
    simp [site?, put, started]

theorem frames_put_cases (hu : w.site? u = some s) (t : Site) {k : Nat} {frame : Bindings}
    (hk : w.frames[k]? = some frame) :
    (w.put u t).frames[k]? = some frame ∨
      s.frame = some frame ∧ t.frame.isSome ∧ (w.put u t).frames[k]? = t.frame := by
  obtain ⟨n, task⟩ := u
  cases task with
  | none => exact .inl hk
  | some l =>
    obtain ⟨own, hl, rfl⟩ := Option.map_eq_some_iff.1 hu
    cases ht : t.frame with
    | none =>
      left
      simp only [put, ht]
      exact hk
    | some own' =>
      simp only [put, ht]
      by_cases same : l = k
      · subst same
        cases hl.symm.trans hk
        exact .inr ⟨rfl, rfl, List.getElem?_set_self (List.getElem?_eq_some_iff.1 hl).1⟩
      · exact .inl ((List.getElem?_set_ne same).trans hk)

theorem cells_perform (w : Commons) (i : Nat) (r : Cell) (u : Post) (s : Site) (what : Deed) :
    (w.perform i r u s what).cells = w.cells := by
  cases what with
  | set c | remove | restore c | attach c | retire => rfl
  | detach j =>
    rw [perform]
    split <;> rfl
  | fork c =>
    rw [perform]
    split <;> rfl

theorem next_perform (i : Nat) (r : Cell) (hu : w.site? u = some s) (what : Deed) :
    (w.perform i r u s what).registry.next = w.registry.next := by
  rw [← registry_of_site? hu]
  cases what with
  | set c => exact congrArg (·.next) (r.registry_set c s)
  | remove => exact congrArg (·.next) (r.registry_remove s)
  | restore c => exact congrArg (·.next) (r.registry_restore c s)
  | attach c => exact congrArg (·.next) (r.registry_attach c s)
  | retire => exact congrArg (·.next) (r.registry_retire s)
  | detach j =>
    rw [perform]
    split
    next => rw [registry_of_site? hu]
    next => rw [registry_of_site? hu]
    next t _ => exact congrArg (·.next) (r.registry_detach t s)
  | fork c =>
    rw [perform]
    split
    next => rw [registry_of_site? hu]
    next => rw [registry_of_site? hu]

theorem exchanged_perform (w : Commons) (i : Nat) (r : Cell) (u : Post) (s : Site) (what : Deed) :
    Exchanged i r w.tokens (w.perform i r u s what).tokens := by
  cases what with
  | set c | remove | restore c | retire => exact .kept
  | attach c => exact .issued rfl
  | detach j =>
    rw [perform]
    split
    next => exact .kept
    next => exact .kept
    next => exact .spent j
  | fork c =>
    rw [perform]
    split <;> exact .kept

theorem Exchanged.mem {tokens tokens' : List (Option (Nat × Token))}
    (h : Exchanged i r tokens tokens') {x : Nat × Token} (hx : some x ∈ tokens') :
    some x ∈ tokens ∨ x.1 = i ∧ x.2.issuer = r.id := by
  cases h with
  | kept => exact .inl hx
  | issued ht =>
    rcases List.mem_append.1 hx with old | new
    · exact .inl old
    · cases List.mem_singleton.1 new
      exact .inr ⟨rfl, ht⟩
  | spent j =>
    rcases List.mem_or_eq_of_mem_set hx with old | gone
    · exact .inl old
    · cases gone

theorem contains_make_iff (numbered : w.Numbered) (k : Strategy) {id : Nat} :
    (w.step (.make k)).registry.live.contains id ↔
      w.cells.length = id ∨ w.registry.live.contains id := by
  rw [← numbered.next]
  exact Cell.isLive_make (s := ⟨w.registry, .fresh, none⟩) (k := k)

namespace Numbered

theorem start : Commons.start.Numbered := by
  refine ⟨rfl, ?_, ?_⟩
  · intro i r hr
    cases hr
  · intro i t ht
    cases ht

theorem make (h : w.Numbered) (k : Strategy) : (w.step (.make k)).Numbered := by
  refine ⟨?_, ?_, h.token⟩
  · simp [step, Cell.make, h.next]
  · intro i r hr
    simp only [step, Cell.make, List.getElem?_append, List.getElem?_singleton] at hr
    split at hr
    next => exact h.cell hr
    next old =>
      split at hr
      next last =>
        cases hr
        have := h.next
        simp only
        omega
      next => cases hr

theorem perform (h : w.Numbered) (hr : w.cells[i]? = some r) (hu : w.site? u = some s)
    (what : Deed) : (w.perform i r u s what).Numbered := by
  refine ⟨?_, ?_, ?_⟩
  · rw [next_perform i r hu, cells_perform, h.next]
  · rw [cells_perform]
    exact h.cell
  · intro j t ht
    rcases (exchanged_perform w i r u s what).mem ht with old | ⟨rfl, issued⟩
    · exact h.token old
    · rw [issued, h.cell hr]

theorem step (h : w.Numbered) (turn : Turn) : (w.step turn).Numbered := by
  cases turn with
  | make k => exact h.make k
  | deed i u what =>
    rcases w.step_deed_cases i u what with nothing | ⟨r, s, hr, hu, -, performed⟩
    · rw [nothing]
      exact h
    · rw [performed]
      exact h.perform hr hu what

theorem run (h : w.Numbered) (turns : List Turn) : (w.run turns).Numbered := by
  induction turns generalizing w with
  | nil => exact h
  | cons turn turns ih => exact ih (h.step turn)

end Numbered

end Commons
end Ambient
