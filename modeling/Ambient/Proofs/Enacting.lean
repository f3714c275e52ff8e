import Ambient.Proofs.Coverage
import Ambient.Proofs.Machine

namespace Ambient

/-- All cells that have been made may have been retired. -/
theorem Commons.affords_idle (n : Nat) : Commons.start.Affords ⟨n, ∅⟩ 0 := by
  induction n with
  | zero => exact Commons.Affords.le Reached.start (Multiset.zero_le _)
  | succ n ih =>
    have made : Reached .start ⟨⟨n + 1, (∅ : Std.ExtTreeSet Nat compare).insert n⟩, .fresh, none⟩
        ({.cell ⟨n, .taskLocal⟩} + 0) := (ih.make .taskLocal).thread
    have retired := made.retire (by simp)
    have none_left : ((∅ : Std.ExtTreeSet Nat compare).insert n).erase n = ∅ := by
      ext k
      simp
    rw [Reached, Cell.registry_retire, none_left] at retired
    exact retired.le (Multiset.zero_le _)

namespace Machine

def heldStock (held : List (Mark × Visit)) : Stock := (held.map fun e => e.2.stock).sum

/-- Whether a thread is in a frame with all of this open on it. -/
def inFrame : List (Mark × Visit) → Bool
  | [] => false
  | (_, .host _) :: _ => true
  | (_, .guarded _) :: held => inFrame held

/-- Only tasks are entered through frames, from where the thread has been. What is guarded is
guarded with cells in use. -/
def Sound (x : Stock) : List (Mark × Visit) → Prop
  | [] => True
  | (mark, .host frame) :: held =>
    (∃ i, mark = .task i) ∧ frame.isSome = inFrame held ∧ Sound x held
  | (_, .guarded g) :: held => .cell g.cell ∈ x ∧ Sound x held

def Guards (x : Stock) (held : List (Mark × Visit)) : Prop :=
  ∀ e ∈ held, ∃ g, e = (.guard, .guarded g) ∧ .cell g.cell ∈ x

def Task.stock (t : Machine.Task) : Stock := t.shell.stock + heldStock t.held

def taskStock (tasks : List (Option Machine.Task)) : Stock := (tasks.map (·.elim 0 Task.stock)).sum

def laneStock (l : Lane) : Stock := {.thread l.thread} + (Stock.ofFrame l.frame + heldStock l.held)

/-- All that is in a machine with one cell can be had. -/
structure Covered (w : Commons) (r : Cell) (m : Machine) : Prop where
  lanes (n : Nat) : Sound {.cell r} (m.lanes n).held ∧
    (m.lanes n).frame.isSome = inFrame (m.lanes n).held
  tasks {t : Machine.Task} : some t ∈ m.tasks → t.shell.Kept {.cell r} ∧ Guards {.cell r} t.held
  bound {b : Bound Unit} : b ∈ m.bound → b.cell = r
  afforded : ∃ n, (∀ k, n ≤ k → m.lanes k = ⟨.fresh, none, []⟩) ∧
    w.Affords m.registry
      (∑ k ∈ Finset.range n, laneStock (m.lanes k) + (taskStock m.tasks + {.cell r}))

variable {w : Commons} {r : Cell} {m : Machine} {n : Nat} {s : Site} {x : Stock}
variable {held own : List (Mark × Visit)}

theorem heldStock_append (own held : List (Mark × Visit)) :
    heldStock (own ++ held) = heldStock own + heldStock held := by
  rw [heldStock, List.map_append, List.sum_append]
  rfl

theorem Guards.inFrame_append (h : Guards x own) (held : List (Mark × Visit)) :
    inFrame (own ++ held) = inFrame held := by
  induction own with
  | nil => rfl
  | cons e own ih =>
    obtain ⟨⟨g, rfl, -⟩, others⟩ := List.forall_mem_cons.1 h
    exact ih others

theorem Guards.sound_append (h : Guards x own) : Sound x (own ++ held) ↔ Sound x held := by
  induction own with
  | nil => rfl
  | cons e own ih =>
    obtain ⟨⟨g, rfl, hg⟩, others⟩ := List.forall_mem_cons.1 h
    exact (and_iff_right hg).trans (ih others)

theorem guards_of_parting {p : Parting Visit} (h : parting held = some p) (sound : Sound x held) :
    Guards x p.own := by
  induction held generalizing p with
  | nil => cases h
  | cons e held ih =>
    obtain ⟨mark, visit⟩ := e
    cases mark with
    | guard =>
      obtain ⟨q, hq, rfl⟩ := Option.map_eq_some_iff.1 h
      cases visit with
      | host frame =>
        obtain ⟨⟨i, not_task⟩, -⟩ := sound
        cases not_task
      | guarded g => exact List.forall_mem_cons.2 ⟨⟨g, rfl, sound.1⟩, ih hq sound.2⟩
    | block => cases h
    | task i =>
      cases h
      intro e he
      cases he

theorem Sound.leave {mark : Mark} {visit : Visit} (h : Sound x ((mark, visit) :: held))
    (framed : s.frame.isSome = inFrame ((mark, visit) :: held)) :
    visit.Kept x s.frame.isSome ∧ Sound x held ∧ (visit.leave s).2.frame.isSome = inFrame held := by
  cases visit with
  | host frame => exact ⟨framed, h.2.2, h.2.1⟩
  | guarded g => exact ⟨h.1, h.2, (g.isSome_frame_finish s).trans framed⟩

theorem Sound.enter (h : Sound x held) (framed : s.frame.isSome = inFrame held) {shell : Shell}
    (kept : shell.Kept x) (i : Nat) :
    Sound x ((.task i, (shell.enter s).1) :: held) ∧
      (shell.enter s).2.frame.isSome = inFrame ((.task i, (shell.enter s).1) :: held) := by
  cases shell with
  | framed b => exact ⟨⟨⟨i, rfl⟩, framed, h⟩, rfl⟩
  | carried q c => exact ⟨⟨kept, h⟩, (q.isSome_frame_set c s).trans framed⟩

/-- Where a thread is, and what else is there. -/
structure Finds (w : Commons) (r : Cell) (m : Machine) (i : Nat) (rest : Stock) : Prop where
  sound : Sound {.cell r} (m.lanes i).held
  framed : (m.site i).frame.isSome = inFrame (m.lanes i).held
  reached : Reached w (m.site i)
    (heldStock (m.lanes i).held + (taskStock m.tasks + (rest + {.cell r})))
  put {s : Site} {held : List (Mark × Visit)} {tasks : List (Option Machine.Task)} :
    Sound {.cell r} held → s.frame.isSome = inFrame held →
      (∀ t, some t ∈ tasks → t.shell.Kept {.cell r} ∧ Guards {.cell r} t.held) →
      Reached w s (heldStock held + (taskStock tasks + (rest + {.cell r}))) →
      ({ m with tasks }.put i s held).Covered w r

theorem Covered.exists_finds (h : m.Covered w r) (i : Nat) : ∃ rest, m.Finds w r i rest := by
  obtain ⟨lanes, tasks, bound, n, fresh, afforded⟩ := h
  have grown := afforded.grow (fun k high => by rw [fresh k high]; rfl) (i + 1)
  obtain ⟨rest, split⟩ :=
    Stock.exists_rest_range (fun k => laneStock (m.lanes k)) (n := n + (i + 1)) (i := i) (by omega)
  rw [split _ fun _ _ => rfl] at grown
  refine ⟨rest, (lanes i).1, (lanes i).2, ?_, fun {s held tasks'} sound framed kept reached => ?_⟩
  · refine grown.le (le_of_eq ?_)
    simp only [laneStock, Site.stock, site, ← Multiset.singleton_add]
    abel
  · have here : (put { m with tasks := tasks' } i s held).lanes i = ⟨s.thread, s.frame, held⟩ :=
      if_pos rfl
    have elsewhere {k : Nat} (other : k ≠ i) :
        (put { m with tasks := tasks' } i s held).lanes k = m.lanes k := if_neg other
    refine ⟨fun k => ?_, kept _, bound, n + (i + 1), fun k high => ?_, ?_⟩
    · by_cases same : k = i
      · rw [same, here]
        exact ⟨sound, framed⟩
      · rw [elsewhere same]
        exact lanes k
    · rw [elsewhere (by omega)]
      exact fresh k (by omega)
    · rw [split _ fun k other => by rw [elsewhere other], here]
      refine Commons.Affords.le reached (le_of_eq ?_)
      simp only [laneStock, Site.stock, put, ← Multiset.singleton_add]
      abel

theorem put_self (m : Machine) (i : Nat) : m.put i (m.site i) (m.lanes i).held = m := by
  have lanes : (fun k => if k = i then m.lanes i else m.lanes k) = m.lanes := by
    funext k
    split
    next same => rw [same]
    next => rfl
  rw [put]
  change { m with lanes := fun k => if k = i then m.lanes i else m.lanes k } = m
  rw [lanes]

theorem heldStock_cons (mark : Mark) (visit : Visit) (held : List (Mark × Visit)) :
    heldStock ((mark, visit) :: held) = visit.stock + heldStock held := rfl

theorem taskStock_concat (tasks : List (Option Machine.Task)) (t : Machine.Task) :
    taskStock (tasks ++ [some t]) = t.stock + taskStock tasks := Stock.sum_concat _ tasks _

theorem taskStock_set_le (tasks : List (Option Machine.Task)) (k : Nat) (t : Machine.Task) :
    taskStock (tasks.set k (some t)) ≤ t.stock + taskStock tasks := by
  cases there : tasks[k]? with
  | none =>
    rw [List.set_eq_of_length_le (List.getElem?_eq_none_iff.1 there)]
    exact Multiset.le_add_left _ _
  | some entry =>
    obtain ⟨rest, before, after⟩ := Stock.exists_rest (·.elim 0 Task.stock) there
    rw [taskStock, taskStock, before, after]
    exact Multiset.add_le_add_left (Multiset.le_add_left _ _)

namespace Covered

theorem activate (h : m.Covered w r) (mark : Mark) (c : Context) (i : Nat) :
    (m.activate r mark c i).Covered w r := by
  obtain ⟨rest, finds⟩ := h.exists_finds i
  have attached := finds.reached.attach (r := r) (by simp) c
  refine finds.put ⟨by exact Multiset.mem_singleton_self _, finds.sound⟩
    ((r.isSome_frame_set c _).trans finds.framed) (fun _ => h.tasks) (attached.congr ?_)
  rw [heldStock_cons, add_assoc]
  rfl

theorem startTask (h : m.Covered w r) (c : Option Context) (i : Nat) :
    Covered w r { m with tasks := m.tasks ++ [some ⟨r.shell c (m.site i), []⟩] } := by
  obtain ⟨rest, finds⟩ := h.exists_finds i
  have begun := finds.reached.shell (r := r) (by simp) c
  rw [← put_self { m with tasks := m.tasks ++ [some ⟨r.shell c (m.site i), []⟩] } i]
  refine finds.put finds.sound finds.framed (fun t ht => ?_) (begun.congr ?_)
  · rcases List.mem_append.1 ht with old | new
    · exact h.tasks old
    · cases List.mem_singleton.1 new
      exact ⟨Reached.shell_kept (by simp) c _, fun e he => nomatch he⟩
  · rw [taskStock_concat]
    simp only [Task.stock, heldStock, List.map_nil, List.sum_nil]
    abel

theorem poll (h : m.Covered w r) (i k : Nat) : (m.act r i (.poll k)).2.Covered w r := by
  obtain ⟨rest, finds⟩ := h.exists_finds i
  simp only [act]
  cases waiting : m.tasks[k]? with
  | none => exact h
  | some entry =>
    cases entry with
    | none => exact h
    | some t =>
      obtain ⟨kept, guards⟩ := h.tasks (List.mem_of_getElem? waiting)
      obtain ⟨others, before, after⟩ := Stock.exists_rest (·.elim 0 Task.stock) waiting
      have there : Reached w (m.site i) (t.shell.stock + (heldStock t.held +
          heldStock (m.lanes i).held + (others + rest) + {.cell r})) := by
        apply finds.reached.congr
        simp only [taskStock, before, Option.elim_some, Task.stock]
        abel
      obtain ⟨entered, -⟩ := there.enterKept kept (Multiset.le_add_left _ _)
      obtain ⟨sound, framed⟩ := finds.sound.enter finds.framed kept k
      refine finds.put (guards.sound_append.2 sound) (framed.trans (guards.inFrame_append _).symm)
        (fun t' ht' => ?_) (entered.congr ?_)
      · rcases List.mem_or_eq_of_mem_set ht' with old | gone
        · exact h.tasks old
        · cases gone
      · simp only [taskStock, after, Option.elim_none, heldStock_append, heldStock_cons]
        abel

theorem pause (h : m.Covered w r) (i : Nat) : (m.act r i .pause).2.Covered w r := by
  obtain ⟨rest, sound, framed, reached, put⟩ := h.exists_finds i
  simp only [act]
  cases parted : parting (m.lanes i).held with
  | none => exact h
  | some p =>
    have guards := guards_of_parting parted sound
    rw [parting_eq_some parted] at sound framed reached
    rw [guards.inFrame_append] at framed
    obtain ⟨kept, below, framed'⟩ := (guards.sound_append.1 sound).leave framed
    have there : Reached w (m.site i) (p.entry.stock +
        (heldStock p.own + heldStock p.below + (taskStock m.tasks + rest) + {.cell r})) := by
      apply reached.congr
      simp only [heldStock_append, heldStock_cons]
      abel
    obtain ⟨left, ofShell⟩ := there.leaveKept kept (Multiset.le_add_left _ _)
    refine put below framed' (fun t ht => ?_) (left.le ?_)
    · rcases List.mem_or_eq_of_mem_set ht with old | new
      · exact h.tasks old
      · cases new
        exact ⟨ofShell, guards⟩
    · refine (Multiset.add_le_add_left (Multiset.add_le_add_right
        (taskStock_set_le m.tasks p.task _))).trans_eq ?_
      simp only [Task.stock]
      abel

theorem close (h : m.Covered w r) (i : Nat) : (m.act r i .close).2.Covered w r := by
  obtain ⟨rest, sound, framed, reached, put⟩ := h.exists_finds i
  simp only [act]
  cases here : (m.lanes i).held with
  | nil => exact h
  | cons e below =>
    obtain ⟨mark, visit⟩ := e
    rw [here] at sound framed reached
    obtain ⟨kept, ofBelow, framed'⟩ := sound.leave framed
    have there : Reached w (m.site i) (visit.stock +
        (heldStock below + (taskStock m.tasks + rest) + {.cell r})) := by
      apply reached.congr
      rw [heldStock_cons]
      abel
    obtain ⟨left, -⟩ := there.leaveKept kept (Multiset.le_add_left _ _)
    refine put ofBelow framed' (fun _ => h.tasks) ((left.le (Multiset.le_add_left _ _)).congr ?_)
    abel

theorem act (h : m.Covered w r) (i : Nat) (what : Act) : (m.act r i what).2.Covered w r := by
  cases what with
  | current | snapshot | value => exact h
  | set c =>
    obtain ⟨rest, finds⟩ := h.exists_finds i
    exact finds.put finds.sound ((r.isSome_frame_set c _).trans finds.framed) (fun _ => h.tasks)
      (finds.reached.set (by simp) c)
  | activate c | within c => exact h.activate _ c i
  | bind =>
    refine ⟨h.lanes, h.tasks, fun {b} hb => ?_, h.afforded⟩
    rcases List.mem_append.1 hb with old | new
    · exact h.bound old
    · cases List.mem_singleton.1 new
      rfl
  | call k =>
    simp only [Machine.act]
    cases hb : m.bound[k]? with
    | none => exact h
    | some b =>
      change (m.activate b.cell .block b.context i).Covered w r
      rw [h.bound (List.mem_of_getElem? hb)]
      exact h.activate _ b.context i
  | start c => exact h.startTask c i
  | poll k => exact h.poll i k
  | pause => exact h.pause i
  | close => exact h.close i

/-- Each thread is where a unit is after some turns, with the cell in use. -/
theorem exists_run (h : m.Covered w r) (i : Nat) :
    ∃ turns u, (w.run turns).site? u = some (m.site i) ∧ (w.run turns).Holds r.id r := by
  obtain ⟨rest, finds⟩ := h.exists_finds i
  obtain ⟨turns, u, hu, holds⟩ := finds.reached.exists_run
  exact ⟨turns, u, hu, holds r (by simp)⟩

end Covered

theorem Covered.start (r : Cell) : (Machine.start r).Covered .start r where
  lanes _ := ⟨trivial, rfl⟩
  tasks ht := nomatch ht
  bound hb := nomatch hb
  afforded := ⟨0, fun _ _ => rfl, (Commons.affords_idle r.id).make r.strategy⟩

end Machine

namespace Program

/-- What is so of a machine at the start, after every act and at the end of a program. -/
def Throughout (r : Cell) (P : Machine → Prop) : Program → Machine → Prop
  | .stop, m => P m
  | .act n what next, m =>
    P m ∧ (next (m.act r n what).1).Throughout r P (m.act r n what).2

/-- Whatever a program does, its machine has nothing that deeds alone cannot lead to. -/
theorem throughout_covered {w : Commons} {r : Cell} {m : Machine} (h : m.Covered w r)
    (program : Program) : program.Throughout r (Machine.Covered w r) m := by
  induction program generalizing m with
  | stop => exact h
  | act n what next ih => exact ⟨h, ih _ (h.act n what)⟩

theorem throughout_covered_start (r : Cell) (program : Program) :
    program.Throughout r (Machine.Covered .start r) (.start r) :=
  throughout_covered (.start r) program

end Program
end Ambient
