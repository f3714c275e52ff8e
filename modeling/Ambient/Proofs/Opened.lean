import Ambient.Proofs.Outline
import Ambient.Proofs.Storage

namespace Ambient

section

set_option autoImplicit true

/-- The plain guards of a task record what is current below each of them. -/
inductive Recorded (r : Cell) (base : Context) : List (Mark × Visit) → List (Mark × Context) → Prop
  | nil : Recorded r base [] []
  | guard : Recorded r base held above → Recorded r base
      ((.guard, .guarded ⟨r, some ⟨r.id, Levels.found ⟨some base, above⟩, none⟩⟩) :: held)
      ((.guard, c) :: above)

/-- What is open on a thread records what is current below it. Where the binding is single, guards
and frames hold it. On a stack it is the part below the height that a guard cuts to. -/
inductive Holds (r : Cell) (base : Option Context) :
    Bool → List Context → List (Mark × Visit) → List (Mark × Context) → Prop
  | single : Holds r base true stack [] []
  | stacked : stack.head? = base → Holds r base false stack [] []
  | plain : Holds r base true stack held above →
      (∀ i, mark = .task i → r.strategy = .threadLocal) →
      Holds r base true stack
        ((mark, .guarded ⟨r, some ⟨r.id, Levels.found ⟨base, above⟩, none⟩⟩) :: held)
        ((mark, c) :: above)
  | framed : Holds r base true stack held above → r.strategy = .taskLocal →
      frame[r.id]? = Levels.found ⟨base, above⟩ →
      Holds r base true stack ((.task i, .host (some frame)) :: held) ((.task i, c) :: above)
  | unframed : Holds r base false stack held above → r.strategy = .taskLocal →
      Holds r base true stack ((.task i, .host none) :: held) ((.task i, c) :: above)
  | piled : Holds r base false below held above → (∀ i, mark ≠ .task i) →
      Holds r base false (c :: more ++ below)
        ((mark, .guarded ⟨r, some ⟨r.id, previous, some below.length⟩⟩) :: held)
        ((mark, c) :: above)

end

/-- What a unit keeps for the cell and has open shows these levels. -/
structure Shows (r : Cell) (s : Site) (held : List (Mark × Visit)) (l : Levels) : Prop where
  live : s.isLive r.id
  found : r.binding s = l.found
  holds : r.Single s ∧ Holds r l.base true (s.stack r.id) held l.above ∨
    r.Stacked s ∧ Holds r l.base false (s.stack r.id) held l.above

section

variable {r : Cell} {s : Site} {base : Option Context} {stack : List Context} {mark : Mark}
  {visit : Visit} {held : List (Mark × Visit)} {above : List (Mark × Context)} {l : Levels}
  {c : Context}

theorem Shows.current (h : Shows r s held l) : r.current s = l.current :=
  congrArg (·.getD ∅) h.found

theorem Holds.head?_stack (h : Holds r base false stack held above) :
    stack.head? = Levels.found ⟨base, above⟩ := by
  cases h with
  | stacked h => exact h
  | piled h hm => rfl

theorem Holds.set (h : Holds r l.base true stack held l.above) (c : Context) :
    Holds r (l.set c).base true stack held (l.set c).above := by
  obtain ⟨base, above⟩ := l
  cases h with
  | single => exact .single
  | plain h hm => exact .plain h hm
  | framed h hs hf => exact .framed h hs hf
  | unframed h hs => exact .unframed h hs

theorem Holds.push (h : Holds r l.base false stack held l.above) (c : Context) :
    Holds r (l.set c).base false (c :: stack) held (l.set c).above := by
  obtain ⟨base, above⟩ := l
  cases h with
  | stacked h => exact .stacked rfl
  | @piled below _ _ _ d more _ h hm => exact @Holds.piled r _ below _ _ _ c (d :: more) _ h hm

@[simp] theorem Levels.found_set (l : Levels) (c : Context) : (l.set c).found = some c := by
  obtain ⟨base, above⟩ := l
  cases above with
  | nil => rfl
  | cons x above => rfl

theorem Shows.set (h : Shows r s held l) (c : Context) : Shows r (r.set c s) held (l.set c) := by
  obtain ⟨live, found, holds⟩ := h
  have live' : (r.set c s).isLive r.id := by
    rw [Site.isLive, Cell.registry_set]
    exact live
  have found' : r.binding (r.set c s) = (l.set c).found := by
    rw [Cell.binding_set live, Levels.found_set]
  refine ⟨live', found', ?_⟩
  rcases holds with ⟨single, holds⟩ | ⟨stacked, holds⟩
  · left
    rw [single.set_eq, single.stack_restore]
    exact ⟨single.restore _, holds.set c⟩
  · right
    rw [stacked.set_eq, stacked.stack_changeStack]
    exact ⟨stacked.changeStack _, holds.push c⟩

theorem Shows.activate (h : Shows r s held l) (c : Context) (hm : ∀ i, mark ≠ .task i) :
    Shows r (Guard.activate r c s).2 ((mark, .guarded (Guard.activate r c s).1) :: held)
      (l.activate mark c) := by
  obtain ⟨live, found, holds⟩ := h
  rcases holds with ⟨single, holds⟩ | ⟨stacked, holds⟩
  · have after := single.restore (some c)
    rw [single.activate_eq, found]
    refine ⟨after.live, Cell.binding_restore live _, .inl ⟨after, ?_⟩⟩
    rw [single.stack_restore]
    exact .plain holds fun i hi => absurd hi (hm i)
  · have after := stacked.changeStack (c :: ·)
    have grown := stacked.stack_changeStack (c :: ·)
    rw [Guard.activate, stacked.attach_eq]
    refine ⟨after.live, ?_, .inr ⟨after, ?_⟩⟩
    · rw [after.binding_eq, grown]
      rfl
    · rw [grown]
      exact @Holds.piled r _ _ _ _ _ c [] _ holds hm

theorem Holds.leave_single
    (h : Holds r base true (s.stack r.id) ((mark, visit) :: held) ((mark, c) :: above))
    (single : r.Single s) : Shows r (visit.leave s).2 held ⟨base, above⟩ := by
  cases h with
  | plain h hm =>
    have undone := single.finish_eq (Cell.PlainGuard.begun r (Levels.found ⟨base, above⟩))
    have after := single.restore (Levels.found ⟨base, above⟩)
    rw [Visit.leave, undone]
    refine ⟨after.live, Cell.binding_restore single.live _, .inl ⟨after, ?_⟩⟩
    rw [single.stack_restore]
    exact h
  | @framed _ _ _ frame _ _ h hs hf =>
    have after : r.Single (Visit.leave (.host (some frame)) s).2 := ⟨single.live, fun _ => rfl⟩
    refine ⟨single.live, ?_, .inl ⟨after, h⟩⟩
    rw [← hf, Cell.binding, hs]
    rfl
  | unframed h hs =>
    have after : r.Stacked (Visit.leave (.host none) s).2 := ⟨single.live, hs, rfl⟩
    refine ⟨single.live, ?_, .inr ⟨after, h⟩⟩
    rw [after.binding_eq]
    exact h.head?_stack

theorem Holds.leave_stacked
    (h : Holds r base false (s.stack r.id) ((mark, visit) :: held) ((mark, c) :: above))
    (stacked : r.Stacked s) : Shows r (visit.leave s).2 held ⟨base, above⟩ := by
  generalize hstack : s.stack r.id = stack at h
  cases h with
  | @piled below _ _ _ _ more previous h hm =>
    have cut : (Guard.finish ⟨r, some ⟨r.id, previous, some below.length⟩⟩ s).2 =
        s.changeStack r.id (Cell.cutTo below.length) := stacked.detach_eq rfl rfl
    have after := stacked.changeStack (Cell.cutTo below.length)
    have left : (s.changeStack r.id (Cell.cutTo below.length)).stack r.id = below := by
      rw [stacked.stack_changeStack, hstack]
      exact Cell.cutTo_append (c :: more) below
    rw [Visit.leave, cut]
    refine ⟨after.live, ?_, .inr ⟨after, ?_⟩⟩
    · rw [after.binding_eq, left]
      exact h.head?_stack
    · rw [left]
      exact h

/-- A task between two polls brings along what is current in it. -/
structure Rests (r : Cell) (task : Machine.Task) (d : Outline.Task) : Prop where
  of : task.shell.Of r
  binding : task.shell.binding r = Levels.found ⟨some d.context, d.above⟩
  held : Recorded r d.context task.held d.above

theorem Shows.enter (h : Shows r s held l) {shell : Shell} (of : shell.Of r) (i : Nat)
    (c : Context) :
    Holds r l.base true ((shell.enter s).2.stack r.id) ((.task i, (shell.enter s).1) :: held)
      ((.task i, c) :: l.above) := by
  obtain ⟨live, found, holds⟩ := h
  cases shell with
  | framed frame =>
    have hs : r.strategy = .taskLocal := of
    rcases holds with ⟨single, holds⟩ | ⟨stacked, holds⟩
    · obtain ⟨host, hf⟩ := Option.isSome_iff_exists.1 (single.framed hs)
      simp only [Shell.enter, hf]
      refine .framed holds hs ?_
      rw [← found, Cell.binding, hs]
      simp only [hf]
    · simp only [Shell.enter, stacked.unframed]
      exact .unframed holds hs
  | carried q d =>
    obtain ⟨rfl, hs⟩ := of
    rcases holds with ⟨single, holds⟩ | ⟨stacked, holds⟩
    · simp only [Shell.enter, single.activate_eq, single.stack_restore, found]
      exact .plain holds fun _ _ => hs
    · exact absurd (hs.symm.trans stacked.taskLocal) (by simp)

theorem Recorded.append {own : List (Mark × Visit)} {own' : List (Mark × Context)} {i : Nat}
    (h : Recorded r c own own')
    (below : Holds r base true stack ((.task i, visit) :: held) ((.task i, c) :: above)) :
    Holds r base true stack (own ++ (.task i, visit) :: held) (own' ++ (.task i, c) :: above) := by
  induction h with
  | nil => exact below
  | guard h ih =>
    rw [← Levels.found_append base _ above (.task i) c]
    exact .plain ih fun i hi => nomatch hi

theorem Shows.poll (h : Shows r s held l) {task : Machine.Task} {d : Outline.Task}
    (rests : Rests r task d) (i : Nat) :
    Shows r (task.shell.enter s).2 (task.held ++ (.task i, (task.shell.enter s).1) :: held)
      ⟨l.base, d.above ++ (.task i, d.context) :: l.above⟩ := by
  obtain ⟨single, found⟩ := rests.of.enter h.live
  refine ⟨single.live, ?_, .inl ⟨single, rests.held.append (h.enter rests.of i d.context)⟩⟩
  rw [found, rests.binding, Levels.found_append]

/-- Both sides part at the same task. -/
structure Parts (r : Cell) (base : Option Context) (stack : List Context) (p : Parting Visit)
    (q : Parting Context) : Prop where
  task : p.task = q.task
  own : Recorded r q.entry p.own q.own
  below : Holds r base true stack ((.task q.task, p.entry) :: p.below)
    ((.task q.task, q.entry) :: q.below)

theorem Parts.guard {p : Parting Visit} {q : Parting Context} (h : Parts r base stack p q)
    (hq : parting above = some q) (c : Context) :
    Parts r base stack
      { p with own := (.guard, .guarded ⟨r, some ⟨r.id, Levels.found ⟨base, above⟩, none⟩⟩) :: p.own }
      { q with own := (.guard, c) :: q.own } := by
  obtain ⟨task, own, below⟩ := h
  rw [parting_eq_some hq, Levels.found_append]
  exact ⟨task, .guard own, below⟩

theorem Holds.parts (h : Holds r base true stack held above) :
    Option.Rel (Parts r base stack) (parting held) (parting above) := by
  generalize hk : true = framed at h
  induction h with
  | single => exact .none
  | stacked _ => cases hk
  | @plain _ held above mark c h hm ih =>
    cases mark with
    | guard =>
      specialize ih rfl
      rw [parting, parting]
      generalize hq : parting above = q at ih ⊢
      generalize parting held = p at ih ⊢
      cases ih with
      | none => exact .none
      | some parts => exact .some (parts.guard hq c)
    | block => exact .none
    | task i => exact .some ⟨rfl, .nil, .plain h hm⟩
  | framed h hs hf => exact .some ⟨rfl, .nil, .framed h hs hf⟩
  | unframed h hs => exact .some ⟨rfl, .nil, .unframed h hs⟩
  | piled h hm => cases hk

theorem Holds.parting_stacked (h : Holds r base false stack held above) :
    parting held = none ∧ parting above = none := by
  generalize hk : false = framed at h
  induction h with
  | stacked _ => exact ⟨rfl, rfl⟩
  | @piled _ _ _ mark _ _ _ h hm ih =>
    cases mark with
    | guard =>
      obtain ⟨none, none'⟩ := ih hk
      rw [parting, parting, none, none']
      exact ⟨rfl, rfl⟩
    | block => exact ⟨rfl, rfl⟩
    | task i => exact absurd rfl (hm i)
  | single | plain h hm | framed h hs hf | unframed h hs => cases hk

theorem Holds.leave_task {i : Nat} {d : Context}
    (h : Holds r base true stack ((.task i, visit) :: held) ((.task i, c) :: above))
    (single : r.Single s) (bound : r.binding s = some d) :
    (visit.leave s).1.Of r ∧ (visit.leave s).1.binding r = some d := by
  cases h with
  | plain h hm =>
    refine ⟨⟨rfl, hm i rfl⟩, ?_⟩
    simp only [Visit.leave, Shell.binding, Cell.current, bound, Option.getD_some]
  | framed h hs _ | unframed h hs =>
    obtain ⟨frame, hf⟩ := Option.isSome_iff_exists.1 (single.framed hs)
    refine ⟨hs, ?_⟩
    simp only [Cell.binding, hs, hf] at bound
    simpa only [Visit.leave, Shell.binding, hf, Option.getD_some] using bound

theorem Shows.pause (h : Shows r s held l) {p : Parting Visit} {q : Parting Context}
    (hp : parting held = some p) (hq : parting l.above = some q) :
    p.task = q.task ∧ Rests r ⟨(p.entry.leave s).1, p.own⟩ ⟨q.entry, q.own⟩ ∧
      Shows r (p.entry.leave s).2 p.below ⟨l.base, q.below⟩ := by
  obtain ⟨live, found, holds⟩ := h
  rcases holds with ⟨single, holds⟩ | ⟨stacked, holds⟩
  · have parted := holds.parts
    rw [hp, hq] at parted
    obtain ⟨task, own, below⟩ : Parts r l.base (s.stack r.id) p q := by
      cases parted with
      | some parts => exact parts
    have top : r.binding s = Levels.found ⟨some q.entry, q.own⟩ := by
      rw [found, ← Levels.found_append l.base q.own q.below (.task q.task), ← parting_eq_some hq]
    obtain ⟨d, hd⟩ := Levels.exists_found_some q.entry q.own
    obtain ⟨of, carried⟩ := below.leave_task single (top.trans hd)
    exact ⟨task, ⟨of, carried.trans hd.symm, own⟩, below.leave_single single⟩
  · rw [holds.parting_stacked.1] at hp
    cases hp

theorem Shows.parting_none_iff (h : Shows r s held l) :
    parting held = none ↔ parting l.above = none := by
  rcases h.holds with ⟨-, holds⟩ | ⟨-, holds⟩
  · have parted := holds.parts
    generalize parting held = p at parted ⊢
    generalize parting l.above = q at parted ⊢
    cases parted with
    | none => exact ⟨fun _ => rfl, fun _ => rfl⟩
    | some parts => simp
  · simp only [holds.parting_stacked]

theorem Holds.exists_cons {framed : Bool}
    (h : Holds r base framed stack ((mark, visit) :: held) above) :
    ∃ c rest, above = (mark, c) :: rest := by
  cases h with
  | plain h hm | framed h hs hf | unframed h hs | piled h hm => exact ⟨_, _, rfl⟩

theorem Holds.eq_nil {framed : Bool} (h : Holds r base framed stack [] above) : above = [] := by
  cases h with
  | single | stacked _ => rfl

theorem Shows.eq_nil (h : Shows r s [] l) : l.above = [] := by
  rcases h.holds with ⟨-, holds⟩ | ⟨-, holds⟩
  · exact holds.eq_nil
  · exact holds.eq_nil

theorem Shows.close (h : Shows r s ((mark, visit) :: held) l) :
    ∃ c below, l.above = (mark, c) :: below ∧ Shows r (visit.leave s).2 held ⟨l.base, below⟩ := by
  obtain ⟨live, found, holds⟩ := h
  rcases holds with ⟨single, holds⟩ | ⟨stacked, holds⟩
  · obtain ⟨c, below, same⟩ := holds.exists_cons
    rw [same] at holds
    exact ⟨c, below, same, holds.leave_single single⟩
  · obtain ⟨c, below, same⟩ := holds.exists_cons
    rw [same] at holds
    exact ⟨c, below, same, holds.leave_stacked stacked⟩

end

end Ambient
