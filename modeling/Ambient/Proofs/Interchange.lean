import Mathlib.Data.List.Forall2
import Ambient.Proofs.Inheritance
import Ambient.Proofs.Opened

namespace Ambient

structure Simulates (r : Cell) (m : Machine) (o : Outline) : Prop where
  lanes (n : Nat) : Shows r (m.site n) (m.lanes n).held (o.lanes n)
  tasks : List.Forall₂ (Option.Rel (Rests r)) m.tasks o.tasks
  bound : m.bound = o.bound.map fun c => ⟨r, c, ()⟩

variable {r : Cell} {s : Site} {held : List (Mark × Visit)} {l : Levels} {m : Machine} {o : Outline}

theorem Shows.start (h : Shows r s held l) {c : Option Context}
    (bound : c = none → l.found.isSome) : Rests r ⟨r.shell c s, []⟩ ⟨c.getD l.current, []⟩ := by
  refine ⟨r.shell_of c s, ?_, .nil⟩
  cases c with
  | some c => exact r.binding_shell_some c s
  | none =>
    obtain ⟨d, hd⟩ := Option.isSome_iff_exists.1 (bound rfl)
    have current : l.current = d := by rw [Levels.current, hd]; rfl
    rw [Cell.binding_shell_none h.live, h.current, h.found, hd, current]
    cases r.strategy with
    | threadLocal => rfl
    | taskLocal => rfl

theorem forall₂_set {α β : Type} {R : α → β → Prop} {as : List α} {bs : List β} {a : α} {b : β}
    (h : List.Forall₂ R as bs) (hab : R a b) (i : Nat) :
    List.Forall₂ R (as.set i a) (bs.set i b) := by
  induction h generalizing i with
  | nil => exact .nil
  | cons head tail ih =>
    cases i with
    | zero => exact .cons hab tail
    | succ i => exact .cons head (ih i)

theorem forall₂_getElem? {α β : Type} {R : α → β → Prop} {as : List α} {bs : List β}
    (h : List.Forall₂ R as bs) (i : Nat) : Option.Rel R as[i]? bs[i]? := by
  induction h generalizing i with
  | nil => exact .none
  | cons head tail ih =>
    cases i with
    | zero => exact .some head
    | succ i => exact ih i

namespace Simulates

theorem put (h : Simulates r m o) (n : Nat) (shows : Shows r s held l)
    (registry : s.registry = m.registry) : Simulates r (m.put n s held) (o.put n l) := by
  refine ⟨fun other => ?_, h.tasks, h.bound⟩
  by_cases same : other = n
  · simp only [Machine.put, Machine.site, Outline.put, if_pos same]
    exact shows
  · simp only [Machine.put, Machine.site, Outline.put, if_neg same, registry]
    exact h.lanes other

theorem withTask (h : Simulates r m o) (i : Nat) {task : Option Machine.Task}
    {task' : Option Outline.Task} (rests : Option.Rel (Rests r) task task') :
    Simulates r { m with tasks := m.tasks.set i task } { o with tasks := o.tasks.set i task' } :=
  ⟨h.lanes, forall₂_set h.tasks rests i, h.bound⟩

theorem activate (h : Simulates r m o) (n : Nat) {mark : Mark} (hm : ∀ i, mark ≠ .task i)
    (c : Context) :
    Simulates r (m.activate r mark c n) (o.put n ((o.lanes n).activate mark c)) :=
  h.put n ((h.lanes n).activate c hm) (Guard.registry_activate r c _)

theorem poll (h : Simulates r m o) (n i : Nat) :
    (m.act r n (.poll i)).1 = (o.act n (.poll i)).1 ∧
      Simulates r (m.act r n (.poll i)).2 (o.act n (.poll i)).2 := by
  have related := forall₂_getElem? h.tasks i
  simp only [Machine.act, Outline.act]
  generalize m.tasks[i]? = task at related ⊢
  generalize o.tasks[i]? = task' at related ⊢
  cases related with
  | none => exact ⟨rfl, h⟩
  | some related =>
    cases related with
    | none => exact ⟨rfl, h⟩
    | some rests =>
      refine ⟨rfl, (h.withTask i .none).put n ((h.lanes n).poll rests i) ?_⟩
      exact Shell.registry_enter _ _

theorem pause (h : Simulates r m o) (n : Nat) :
    (m.act r n .pause).1 = (o.act n .pause).1 ∧
      Simulates r (m.act r n .pause).2 (o.act n .pause).2 := by
  have same := (h.lanes n).parting_none_iff
  simp only [Machine.act, Outline.act]
  cases hp : parting (m.lanes n).held with
  | none =>
    rw [same.1 hp]
    exact ⟨rfl, h⟩
  | some p =>
    cases hq : parting (o.lanes n).above with
    | none => exact absurd (same.2 hq) (by simp [hp])
    | some q =>
      obtain ⟨task, rests, shows⟩ := (h.lanes n).pause hp hq
      dsimp only
      rw [task]
      refine ⟨rfl, (h.withTask q.task (.some rests)).put n shows ?_⟩
      exact Visit.registry_leave _ _

theorem close (h : Simulates r m o) (n : Nat) :
    (m.act r n .close).1 = (o.act n .close).1 ∧
      Simulates r (m.act r n .close).2 (o.act n .close).2 := by
  have shows := h.lanes n
  simp only [Machine.act, Outline.act]
  cases held : (m.lanes n).held with
  | nil =>
    rw [held] at shows
    rw [shows.eq_nil]
    exact ⟨rfl, h⟩
  | cons x below =>
    rw [held] at shows
    obtain ⟨c, below', same, closed⟩ := shows.close
    rw [same]
    exact ⟨rfl, h.put n closed (Visit.registry_leave _ _)⟩

theorem call (h : Simulates r m o) (n i : Nat) :
    (m.act r n (.call i)).1 = (o.act n (.call i)).1 ∧
      Simulates r (m.act r n (.call i)).2 (o.act n (.call i)).2 := by
  simp only [Machine.act, Outline.act, h.bound, List.getElem?_map]
  cases o.bound[i]? with
  | none => exact ⟨rfl, h⟩
  | some c => exact ⟨rfl, h.activate n (by simp) c⟩

/-- Whatever a thread does next, it reads the same, and the outline goes on to tell of it. -/
theorem act (h : Simulates r m o) (n : Nat) (what : Act)
    (bound : what = .start none → (o.lanes n).found.isSome) :
    (m.act r n what).1 = (o.act n what).1 ∧ Simulates r (m.act r n what).2 (o.act n what).2 := by
  have shows := h.lanes n
  cases what with
  | current =>
    refine ⟨?_, h⟩
    simp only [Machine.act, Outline.act, shows.current]
  | snapshot =>
    refine ⟨?_, h⟩
    simp only [Machine.act, Outline.act, shows.found]
  | value key kind =>
    refine ⟨?_, h⟩
    simp only [Machine.act, Outline.act, shows.current]
  | set c => exact ⟨rfl, h.put n (shows.set c) (Cell.registry_set r c _)⟩
  | activate c => exact ⟨rfl, h.activate n (by simp) c⟩
  | within c => exact ⟨rfl, h.activate n (by simp) c⟩
  | bind =>
    refine ⟨rfl, h.lanes, h.tasks, ?_⟩
    simp only [Machine.act, Outline.act, Cell.bind, shows.current, h.bound, List.map_append]
    rfl
  | call i => exact h.call n i
  | start c =>
    have rests := shows.start (c := c) fun hc => bound (hc ▸ rfl)
    exact ⟨rfl, h.lanes, List.rel_append h.tasks (.cons (.some rests) .nil), h.bound⟩
  | poll i => exact h.poll n i
  | pause => exact h.pause n
  | close => exact h.close n

end Simulates

theorem simulates_start (r : Cell) : Simulates r (.start r) .start := by
  refine ⟨fun n => ?_, .nil, rfl⟩
  have live : ((Machine.start r).site n).isLive r.id := (Process.uses_fresh r).isLive 0 none
  have empty : ((Machine.start r).site n).stack r.id = [] := Std.ExtTreeMap.getD_empty
  rcases Cell.single_or_stacked live with single | stacked
  · refine ⟨live, ?_, .inl ⟨single, .single⟩⟩
    cases hs : r.strategy with
    | threadLocal =>
      rw [Cell.binding, hs]
      exact Std.ExtTreeMap.getElem?_empty
    | taskLocal => exact absurd (single.framed hs) (by simp [Machine.site, Machine.start])
  · refine ⟨live, ?_, .inr ⟨stacked, .stacked ?_⟩⟩
    · rw [stacked.binding_eq, empty]
      rfl
    · rw [empty]
      rfl

namespace Program

theorem run_eq_outline (p : Program) (h : Simulates r m o) (bound : p.OutlineForksBound o) :
    p.run r m = p.outline o := by
  induction p generalizing m o with
  | stop => rfl
  | act n what next ih =>
    obtain ⟨here, later⟩ := bound
    obtain ⟨same, after⟩ := h.act n what here
    rw [run, outline, same]
    exact congrArg _ (ih _ after later)

theorem forksBound_iff_outline (p : Program) (h : Simulates r m o) :
    p.ForksBound r m ↔ p.OutlineForksBound o := by
  induction p generalizing m o with
  | stop => exact Iff.rfl
  | act n what next ih =>
    rw [ForksBound, OutlineForksBound, (h.lanes n).found]
    apply and_congr_right
    intro here
    obtain ⟨same, after⟩ := h.act n what here
    rw [same]
    exact ih _ after

/-- What a program reads on fresh threads does not depend on the strategy of the cell: with either
it reads what its outline tells. -/
theorem run_eq_run (r r' : Cell) (p : Program) (bound : p.ForksBound r (.start r)) :
    p.run r (.start r) = p.run r' (.start r') ∧ p.run r (.start r) = p.outline .start := by
  have outlined := (p.forksBound_iff_outline (simulates_start r)).1 bound
  have told := p.run_eq_outline (simulates_start r) outlined
  have told' := p.run_eq_outline (simulates_start r') outlined
  exact ⟨told.trans told'.symm, told⟩

/-- A task keeps a guard across its way from one thread to another, where a guard is open too. -/
theorem run_eq_run_of_moved_task :
    let r : Cell := ⟨0, .threadLocal⟩
    let r' : Cell := ⟨0, .taskLocal⟩
    let mark : Context := (∅ : Context).withShared "mark" ⟨0, ⟨.unit, ()⟩⟩
    let steps : List (Nat × Act) := [(0, .set mark), (0, .start none), (0, .activate ∅),
      (1, .poll 0), (1, .snapshot), (1, .activate ∅), (1, .pause), (1, .snapshot),
      (0, .set mark), (0, .poll 0), (0, .current), (0, .close), (0, .current), (0, .close),
      (0, .close), (0, .snapshot)]
    let p : Program := steps.foldr (fun step p => .act step.1 step.2 fun _ => p) .stop
    p.ForksBound r (.start r) ∧
      p.run r' (.start r') = [.snapshot (some mark), .snapshot none, .current ∅, .current mark,
        .snapshot (some mark)] := by
  intro r r' mark steps p
  have bound : p.ForksBound r (.start r) := by
    refine ⟨by simp, fun _ => by cbv, ?_⟩
    iterate 14 refine ⟨by simp, ?_⟩
    trivial
  have seen : p.run r (.start r) = [.snapshot (some mark), .snapshot none, .current ∅,
      .current mark, .snapshot (some mark)] := by
    cbv
  exact ⟨bound, (run_eq_run r r' p bound).1.symm.trans seen⟩

end Program

end Ambient
