import Ambient.Proofs.Piles

namespace Ambient

namespace Commons

/-- The lists tell what the threads of a process keep for the cells in use. -/
structure Tells (p : Piles) (w : Commons) : Prop where
  cells : p.cells = w.cells.map fun r => (r.strategy, w.registry.live.contains r.id)
  tasks : p.tasks = w.frames.length
  tokens : p.tokens = depths w.tokens
  list {i : Nat} {r : Cell} : w.Holds i r → ∀ n, (w.threads n).list i = p.lists i n
  unmade {i : Nat} : w.cells.length ≤ i → ∀ n, (w.threads n).list i = [] ∧ p.lists i n = []
  filled (n : Nat) : (w.threads n).Filled

variable {p : Piles} {w : Commons} {i : Nat} {r : Cell} {u : Post} {s : Site}

theorem isSome_frame_of_site? (h : w.site? u = some s) : s.frame.isSome = u.task.isSome := by
  obtain ⟨n, task⟩ := u
  cases task with
  | none =>
    cases h
    rfl
  | some k =>
    obtain ⟨frame, -, rfl⟩ := Option.map_eq_some_iff.1 h
    rfl

theorem isSome_site?_iff : (w.site? u).isSome ↔ ∀ task ∈ u.task, task < w.frames.length := by
  obtain ⟨n, task⟩ := u
  cases task <;> simp [site?]

theorem threads_perform (i : Nat) (r : Cell) (hu : w.site? u = some s) (d : Deed) (n : Nat) :
    (w.perform i r u s d).threads n =
      if n = u.thread then (d.after r w.tokens s).thread else w.threads n := by
  have idle : w.threads n = if n = u.thread then s.thread else w.threads n := by
    rw [thread_of_site? hu]
    split
    next h => rw [h]
    next => rfl
  cases d with
  | set c | remove | restore c | attach c | retire => rfl
  | fork c =>
    rw [perform]
    split <;> exact idle
  | detach j =>
    simp only [perform, Deed.after, Deed.act]
    split
    next h => simpa only [h] using idle
    next h => simpa only [h] using idle
    next h =>
      simp only [h]
      rfl

theorem length_frames_put (w : Commons) (u : Post) (s : Site) :
    (w.put u s).frames.length = w.frames.length := by
  rw [put]
  split
  next => exact List.length_set
  next => rfl

theorem length_frames_perform (w : Commons) (i : Nat) (r : Cell) (u : Post) (s : Site) (d : Deed) :
    (w.perform i r u s d).frames.length = w.frames.length + d.starts r.strategy := by
  cases d with
  | set c | remove | restore c | attach c | retire => exact length_frames_put w u _
  | detach j =>
    rw [perform]
    split
    next => rfl
    next => rfl
    next => exact length_frames_put w u _
  | fork c =>
    rw [perform]
    cases hs : r.strategy with
    | threadLocal =>
      simp only [Cell.fork, hs]
      rfl
    | taskLocal =>
      obtain ⟨frame, hf⟩ := Cell.exists_fork hs c s
      simp only [hf]
      exact List.length_append

theorem contains_perform_iff (i : Nat) (r : Cell) (hu : w.site? u = some s) (d : Deed) {id : Nat} :
    (w.perform i r u s d).registry.live.contains id ↔
      w.registry.live.contains id ∧ (d = .retire → r.id ≠ id) := by
  by_cases retired : d = .retire
  · subst retired
    have left : (r.retire s).isLive id ↔ r.id ≠ id ∧ s.isLive id := Cell.isLive_retire
    rw [Site.isLive, Site.isLive, registry_of_site? hu] at left
    exact left.trans (by simp [and_comm])
  · rw [registry_perform i r hu retired]
    simp [retired]

namespace Tells

theorem start : Tells .start .start where
  cells := rfl
  tasks := rfl
  tokens := rfl
  list h := nomatch h.1
  unmade _ _ := ⟨by simp [Thread.list, Commons.start, Thread.fresh], rfl⟩
  filled _ _ := by simp [Commons.start, Thread.fresh]

theorem cell (h : Tells p w) (holds : w.Holds i r) : p.cells[i]? = some (r.strategy, true) := by
  rw [h.cells, List.getElem?_map, holds.1, Option.map_some, holds.2]

theorem holds (h : Tells p w) (numbered : w.Numbered) {k : Strategy}
    (used : p.cells[i]? = some (k, true)) : w.Holds i ⟨i, k⟩ := by
  rw [h.cells, List.getElem?_map, Option.map_eq_some_iff] at used
  obtain ⟨⟨id, strategy⟩, hr, same⟩ := used
  obtain ⟨rfl, live⟩ := Prod.mk.inj same
  obtain rfl : id = i := numbered.cell hr
  exact ⟨hr, live⟩

theorem make (h : Tells p w) (numbered : w.Numbered) (k : Strategy) :
    Tells (p.step (.make k)) (w.step (.make k)) := by
  have cells : (w.step (.make k)).cells = w.cells ++ [⟨w.registry.next, k⟩] := rfl
  refine ⟨?_, h.tasks, h.tokens, fun {i r} hr n => ?_, fun {i} old n => ?_, h.filled⟩
  · have kept : ∀ r ∈ w.cells, (w.step (.make k)).registry.live.contains r.id =
        w.registry.live.contains r.id := by
      intro r hr
      obtain ⟨i, hi⟩ := List.getElem?_of_mem hr
      have made : i < w.cells.length := (List.getElem?_eq_some_iff.1 hi).1
      rw [Bool.eq_iff_iff, contains_make_iff numbered, numbered.cell hi]
      exact or_iff_right (by omega)
    have given : (w.step (.make k)).registry.live.contains w.registry.next :=
      (contains_make_iff numbered k).2 (.inl numbered.next.symm)
    rw [cells, List.map_append, List.map_singleton, given, Piles.step, h.cells]
    refine congrArg (· ++ _) (List.map_congr_left fun r hr => ?_)
    rw [kept r hr]
  · obtain ⟨hr, live⟩ := hr
    rw [cells, List.getElem?_append] at hr
    split at hr
    next made =>
      rw [contains_make_iff numbered, numbered.cell hr] at live
      have used : w.registry.live.contains r.id := by
        rw [numbered.cell hr]
        exact live.resolve_left (by omega)
      exact h.list ⟨hr, used⟩ n
    next new =>
      -- Nothing has ever come to the lists of the new cell, although they were there before it.
      obtain ⟨none, none'⟩ := h.unmade (Nat.le_of_not_lt new) n
      exact none.trans none'.symm
  · rw [cells, List.length_append] at old
    exact h.unmade (Nat.le_of_add_right_le old) n

section

variable (h : Tells p w) (numbered : w.Numbered) (holds : w.Holds i r) (hu : w.site? u = some s)
include h numbered holds hu

theorem depth_attach (c : Context) :
    (r.attach c s).1.depth = p.depth i r.strategy u := by
  have framed := isSome_frame_of_site? hu
  have list : (s.stack r.id).length = (p.lists i u.thread).length := by
    rw [← h.list holds, Thread.list, List.length_reverse, ← thread_of_site? hu,
      numbered.cell holds.1, Site.stack]
  cases hs : r.strategy with
  | threadLocal => simp only [Cell.attach, Piles.depth, hs]
  | taskLocal =>
    cases hf : s.frame with
    | none =>
      have outside : u.task = none := by simpa [hf] using framed.symm
      simp only [Cell.attach, Piles.depth, hs, hf, outside, list]
    | some frame =>
      obtain ⟨k, inside⟩ := Option.isSome_iff_exists.1 (framed.symm.trans (by rw [hf]; rfl))
      simp only [Cell.attach, Piles.depth, hs, hf, inside]

theorem tokens_perform (d : Deed) :
    (p.perform i r.strategy u d).tokens = depths (w.perform i r u s d).tokens := by
  rw [← step_deed holds hu, tokens_deed holds hu]
  cases d with
  | attach c =>
    rw [Deed.exchange, depths, List.map_append, List.map_singleton, Option.map_some,
      h.depth_attach numbered holds hu]
    exact congrArg (· ++ _) h.tokens
  | detach j =>
    rw [Deed.exchange, depths, List.map_set]
    exact congrArg (·.set j none) h.tokens
  | set c | remove | restore c | fork c | retire => exact h.tokens

theorem cells_perform (d : Deed) :
    (p.perform i r.strategy u d).cells = w.cells.map fun q =>
      (q.strategy, (w.perform i r u s d).registry.live.contains q.id) := by
  have kept (hd : d ≠ .retire) : p.cells = w.cells.map fun q =>
      (q.strategy, (w.perform i r u s d).registry.live.contains q.id) := by
    rw [registry_perform i r hu hd]
    exact h.cells
  cases d with
  | set c | remove | restore c | attach c | detach j | fork c => exact kept (by simp)
  | retire =>
    show p.cells.set i (r.strategy, false) = _
    apply List.ext_getElem?
    intro j
    rw [h.cells, List.getElem?_set, List.length_map, List.getElem?_map, List.getElem?_map]
    split
    next same =>
      subst same
      rw [if_pos (List.getElem?_eq_some_iff.1 holds.1).1, holds.1]
      have out : ¬ (w.perform i r u s .retire).registry.live.contains r.id := fun live =>
        ((contains_perform_iff i r hu .retire).1 live).2 rfl rfl
      simp [out]
    next other =>
      refine Option.map_congr fun q hq => ?_
      have kept : (w.perform i r u s .retire).registry.live.contains q.id =
          w.registry.live.contains q.id := by
        rw [Bool.eq_iff_iff, contains_perform_iff i r hu, numbered.cell holds.1, numbered.cell hq]
        exact and_iff_left fun _ => other
      rw [kept]

theorem relisted (d : Deed) :
    Site.Relisted i (d.onList r.strategy u.task.isSome i p.tokens) s (d.after r w.tokens s) := by
  rw [h.tokens, ← isSome_frame_of_site? hu, ← numbered.cell holds.1]
  exact d.relisted_after (holds.isLive hu) numbered.token

theorem list_perform (d : Deed) {j : Nat} {q : Cell} (hq : (w.perform i r u s d).Holds j q)
    (n : Nat) :
    ((w.perform i r u s d).threads n).list j = (p.perform i r.strategy u d).lists j n := by
  rw [Holds, Commons.cells_perform, contains_perform_iff i r hu] at hq
  obtain ⟨hq, live, -⟩ := hq
  have before := h.list ⟨hq, live⟩
  have relisted := h.relisted numbered holds hu d
  have thread := thread_of_site? hu
  rw [threads_perform i r hu]
  by_cases here : n = u.thread
  · subst here
    by_cases same : j = i
    · subst same
      simp only [Piles.perform, if_true, and_self, relisted.own, thread, before]
    · simp only [Piles.perform, same, false_and, if_false, if_true, ← before]
      rcases relisted.other same with stays | ⟨dead, -⟩
      · rw [stays, thread]
      · rw [Site.isLive, registry_of_site? hu, ← numbered.cell hq] at dead
        exact absurd live dead
  · simp only [Piles.perform, here, and_false, if_false, before]

theorem unmade_perform (d : Deed) {j : Nat} (later : w.cells.length ≤ j) (n : Nat) :
    ((w.perform i r u s d).threads n).list j = [] ∧ (p.perform i r.strategy u d).lists j n = [] := by
  obtain ⟨none, none'⟩ := h.unmade later n
  have made : i < w.cells.length := (List.getElem?_eq_some_iff.1 holds.1).1
  have other : j ≠ i := by omega
  constructor
  · rw [threads_perform i r hu]
    split
    next here =>
      subst here
      rcases (h.relisted numbered holds hu d).other other with stays | ⟨-, gone⟩
      · rw [stays, thread_of_site? hu, none]
      · exact gone
    next => exact none
  · simp only [Piles.perform, other, false_and, if_false, none']

theorem filled_perform (d : Deed) (n : Nat) : ((w.perform i r u s d).threads n).Filled := by
  rw [threads_perform i r hu]
  split
  next =>
    apply (h.relisted numbered holds hu d).filled
    rw [thread_of_site? hu]
    exact h.filled u.thread
  next => exact h.filled n

theorem perform (d : Deed) : Tells (p.perform i r.strategy u d) (w.perform i r u s d) where
  cells := by
    rw [Commons.cells_perform]
    exact h.cells_perform numbered holds hu d
  tasks := by
    rw [length_frames_perform, ← h.tasks]
    rfl
  tokens := h.tokens_perform numbered holds hu d
  list hq := h.list_perform numbered holds hu d hq
  unmade later := h.unmade_perform numbered holds hu d (by rwa [Commons.cells_perform] at later)
  filled := h.filled_perform numbered holds hu d

end

theorem step (h : Tells p w) (numbered : w.Numbered) (turn : Turn) :
    Tells (p.step turn) (w.step turn) := by
  cases turn with
  | make k => exact h.make numbered k
  | deed i u d =>
    rw [Piles.step, h.tasks]
    by_cases used : ∃ r, w.Holds i r
    · obtain ⟨r, holds⟩ := used
      rw [h.cell holds]
      by_cases there : ∀ task ∈ u.task, task < w.frames.length
      · obtain ⟨s, hu⟩ := Option.isSome_iff_exists.1 (isSome_site?_iff.2 there)
        rw [step_deed holds hu]
        simp only [if_pos there]
        exact h.perform numbered holds hu d
      · simp only [if_neg there]
        rcases w.step_deed_cases i u d with nothing | ⟨_, _, _, hu, -⟩
        · rw [nothing]
          exact h
        · exact absurd (isSome_site?_iff.1 (by rw [hu]; rfl)) there
    · have idle : w.step (.deed i u d) = w := by
        rcases w.step_deed_cases i u d with nothing | ⟨r, s, hr, hu, live, -⟩
        · exact nothing
        · rw [Site.isLive, registry_of_site? hu] at live
          exact absurd ⟨r, hr, live⟩ used
      rw [idle]
      split
      next k there =>
        exact absurd ⟨_, h.holds numbered there⟩ used
      next => exact h

theorem run (h : Tells p w) (numbered : w.Numbered) (turns : List Turn) :
    Tells (p.run turns) (w.run turns) := by
  induction turns generalizing p w with
  | nil => exact h
  | cons turn turns ih => exact ih (h.step numbered turn) (numbered.step turn)

end Tells

/-- However a process has run, outside tasks every task-local cell in use has a list of its own on
every thread. The deeds of units change it as `Deed.onList` says, the last context of it is current,
and the map of the thread has an entry for the cell just where the list has something in it. -/
theorem stackOf_run {turns : List Turn} (holds : (start.run turns).Holds i r)
    (hr : r.strategy = .taskLocal) (n : Nat) :
    let w := start.run turns
    let p := Piles.start.run turns
    let s : Site := ⟨w.registry, w.threads n, none⟩
    let list := p.lists i n
    p.cells[i]? = some (.taskLocal, true) ∧ p.tokens = depths w.tokens ∧
      r.binding s = list.getLast? ∧ r.current s = list.getLast?.getD ∅ ∧
      (w.threads n).stackOf[r.id]? = (if list = [] then none else some list.reverse) ∧
      ∀ id : Nat, (w.threads n).stackOf[id]? ≠ some ([] : List Context) := by
  intro w p s list
  have tells : Tells p w := Tells.start.run Numbered.start turns
  have filled : (w.threads n).Filled := tells.filled n
  have same : (w.threads n).list r.id = list := by
    rw [(Numbered.start.run turns).cell holds.1]
    exact tells.list holds n
  have bound : r.binding s = list.getLast? := by
    rw [← same, Thread.list, List.getLast?_reverse]
    simp only [Cell.binding, hr]
    rfl
  refine ⟨?_, tells.tokens, bound, by rw [Cell.current, bound], ?_, filled⟩
  · rw [tells.cell holds, hr]
  · rw [filled.getElem?_stackOf, same]

/-- On one thread a cell is emptied, with one removal to spare, and restored, before a token comes
back that would leave more than there is. Another cell gives its only entry back, and a third is
retired elsewhere. -/
theorem stackOf_run_of_spent_tokens :
    let mark : Context := (∅ : Context).withShared "mark" ⟨0, ⟨.unit, ()⟩⟩
    let r : Cell := ⟨0, .taskLocal⟩
    let q : Cell := ⟨1, .taskLocal⟩
    let here : Post := ⟨0, none⟩
    let turns : List Turn := [.make .taskLocal, .make .taskLocal, .make .taskLocal,
      .deed 0 here (.set ∅), .deed 0 here (.set ∅), .deed 0 here (.attach mark),
      .deed 0 here .remove, .deed 0 here .remove, .deed 0 here .remove, .deed 0 here .remove,
      .deed 0 here (.restore (some mark)), .deed 0 here (.detach 0),
      .deed 2 here (.set mark), .deed 2 ⟨1, none⟩ .retire,
      .deed 1 here (.attach ∅), .deed 1 here (.detach 1)]
    let w := start.run turns
    let s : Site := ⟨w.registry, w.threads 0, none⟩
    w.Holds 0 r ∧ r.strategy = .taskLocal ∧ w.Holds 1 q ∧ q.strategy = .taskLocal ∧
      r.current s = mark ∧ (w.threads 0).stackOf[r.id]? = some [mark] ∧
      q.binding s = none ∧ (w.threads 0).stackOf[q.id]? = none := by
  intro mark r q here turns
  have tells : Tells (Piles.start.run turns) (start.run turns) :=
    Tells.start.run Numbered.start turns
  have first : (start.run turns).Holds 0 r := tells.holds (Numbered.start.run turns) (by cbv)
  have second : (start.run turns).Holds 1 q := tells.holds (Numbered.start.run turns) (by cbv)
  have list : (Piles.start.run turns).lists 0 0 = [mark] := by cbv
  have none : (Piles.start.run turns).lists 1 0 = [] := by cbv
  obtain ⟨-, -, -, current, entry, -⟩ := stackOf_run first rfl 0
  obtain ⟨-, -, bound, -, absent, -⟩ := stackOf_run second rfl 0
  rw [list, List.getLast?_singleton, Option.getD_some] at current
  rw [list, if_neg (List.cons_ne_nil _ _), List.reverse_singleton] at entry
  rw [none, List.getLast?_nil] at bound
  rw [none, if_pos rfl] at absent
  exact ⟨first, rfl, second, rfl, current, entry, bound, absent⟩

end Commons

end Ambient
