import Ambient.Proofs.Deeds
import Ambient.Proofs.Storage

namespace Ambient

/-- What a deed of a unit with a cell does to the list that its thread has for the cell. The current
context comes last. Of a token only the cell that issued it and its depth count. -/
def Deed.onList (k : Strategy) (inTask : Bool) (i : Nat) (tokens : List (Option (Nat × Option Nat)))
    (d : Deed) (list : List Context) : List Context :=
  match d, k, inTask with
  | .set c, .taskLocal, false => list ++ [c]
  | .attach c, .taskLocal, false => list ++ [c]
  | .remove, .taskLocal, false => list.dropLast
  | .restore c, .taskLocal, false => c.toList
  | .retire, .taskLocal, _ => []
  -- A token with a depth cuts the list from within a task as well.
  | .detach j, .taskLocal, _ =>
    match tokens[j]? with
    | some (some (issuer, some depth)) => if issuer = i then list.take depth else list
    | _ => list
  | _, _, _ => list

def Deed.starts : Deed → Strategy → Nat
  | .fork _, .taskLocal => 1
  | _, _ => 0

/-- A process in which every cell has a list on every thread. A cell is kept with its strategy and
with whether it is in use, a token with the cell that issued it and its depth. -/
structure Piles where
  cells : List (Strategy × Bool)
  lists : Nat → Nat → List Context
  tasks : Nat
  tokens : List (Option (Nat × Option Nat))

namespace Piles

def start : Piles := ⟨[], fun _ _ => [], 0, []⟩

/-- Outside tasks the depth of a token is the length of the list. -/
def depth (p : Piles) (i : Nat) (k : Strategy) (u : Post) : Option Nat :=
  match k, u.task with
  | .taskLocal, none => some (p.lists i u.thread).length
  | _, _ => none

def perform (p : Piles) (i : Nat) (k : Strategy) (u : Post) (d : Deed) : Piles where
  cells := match d with
    | .retire => p.cells.set i (k, false)
    | _ => p.cells
  lists j n :=
    if j = i ∧ n = u.thread then d.onList k u.task.isSome i p.tokens (p.lists i n) else p.lists j n
  tasks := p.tasks + d.starts k
  tokens := match d with
    | .attach _ => p.tokens ++ [some (i, p.depth i k u)]
    | .detach j => p.tokens.set j none
    | _ => p.tokens

def step (p : Piles) : Turn → Piles
  | .make k => { p with cells := p.cells ++ [(k, true)] }
  | .deed i u d =>
    match p.cells[i]? with
    | some (k, true) => if ∀ task ∈ u.task, task < p.tasks then p.perform i k u d else p
    | _ => p

def run (p : Piles) (turns : List Turn) : Piles := turns.foldl step p

end Piles

/-- The contexts that a thread keeps for a cell outside its tasks, the current one last. -/
def Thread.list (thread : Thread) (id : Nat) : List Context := (thread.stackOf.getD id []).reverse

/-- Nothing is kept that is empty. -/
def Thread.Filled (thread : Thread) : Prop := ∀ id : Nat, thread.stackOf[id]? ≠ some []

theorem Thread.Filled.getElem?_stackOf {thread : Thread} (h : thread.Filled) (id : Nat) :
    thread.stackOf[id]? =
      if thread.list id = [] then none else some (thread.list id).reverse := by
  have some_entry := h id
  rw [Thread.list, Std.ExtTreeMap.getD_eq_getD_getElem?, List.reverse_reverse]
  cases hs : thread.stackOf[id]? with
  | none => rfl
  | some stack =>
    have filled : stack ≠ [] := fun none => some_entry (hs.trans (congrArg some none))
    simp [filled]

/-- From one site to the other the list of a cell has changed. The lists of the other cells in use
are what they were, and nothing has come to any list of a cell that is not in use. -/
structure Site.Relisted (id : Nat) (f : List Context → List Context) (s t : Site) : Prop where
  own : t.thread.list id = f (s.thread.list id)
  other {k : Nat} : k ≠ id →
    t.thread.list k = s.thread.list k ∨ ¬ s.isLive k ∧ t.thread.list k = []
  filled : s.thread.Filled → t.thread.Filled

namespace Site.Relisted

variable {s t : Site} {id : Nat} {f : List Context → List Context}

theorem of_eq (same : t.thread.stackOf = s.thread.stackOf) (h : ∀ list, f list = list) :
    Relisted id f s t := by
  have lists (k : Nat) : t.thread.list k = s.thread.list k := by rw [Thread.list, same, Thread.list]
  refine ⟨by rw [lists, h], fun _ => .inl (lists _), fun filled k => ?_⟩
  rw [same]
  exact filled k

theorem list_eq (s : Site) (id : Nat) : s.thread.list id = (s.stack id).reverse := rfl

theorem changeStack (live : s.isLive id) {g : List Context → List Context}
    (mirrored : ∀ list, g list.reverse = (f list).reverse) :
    Relisted id f s (s.changeStack id g) := by
  refine ⟨?_, fun {k} other => ?_, fun filled k => ?_⟩
  · have stack : s.stack id = (s.thread.list id).reverse := (List.reverse_reverse _).symm
    rw [list_eq, stack_changeStack, if_pos live, if_pos rfl, stack, mirrored, List.reverse_reverse]
  · rw [list_eq, stack_changeStack, if_neg (Ne.symm other)]
    by_cases used : s.isLive k
    · rw [if_pos used]
      exact .inl rfl
    · rw [if_neg used]
      exact .inr ⟨used, rfl⟩
  · have old := filled k
    simp only [Site.changeStack, getElem?_sweep]
    split
    next =>
      split
      next =>
        rw [Std.ExtTreeMap.getElem?_erase]
        split
        next => simp
        next => exact old
      next =>
        rw [Std.ExtTreeMap.getElem?_insert]
        split
        next => simp
        next => exact old
    next => simp

end Site.Relisted

def depths (tokens : List (Option (Nat × Token))) : List (Option (Nat × Option Nat)) :=
  tokens.map (Option.map fun x => (x.1, x.2.depth))

theorem Cell.cutTo_reverse (height : Nat) (list : List Context) :
    cutTo height list.reverse = (list.take height).reverse := by
  rw [cutTo, List.length_reverse, List.drop_reverse]
  congr 1
  by_cases short : list.length ≤ height
  · rw [Nat.sub_eq_zero_of_le short, Nat.sub_zero, List.take_of_length_le short, List.take_length]
  · rw [Nat.sub_sub_self (by omega)]

section

variable {r : Cell} {s : Site}

theorem Site.Relisted.restore (h : r.Single s) (c : Option Context)
    {f : List Context → List Context} (kept : ∀ list, f list = list) :
    Relisted r.id f s (r.restore c s) := by
  refine of_eq ?_ kept
  rw [Cell.restore]
  split
  next => rfl
  next hs =>
    split
    next => rfl
    next hf => exact absurd (h.framed hs) (by simp [hf])

theorem Deed.onList_of_single (h : r.Single s) (d : Deed) (ordinary : d.Ordinary)
    (other : ∀ j, d ≠ .detach j) (i : Nat) (tokens : List (Option (Nat × Option Nat)))
    (list : List Context) : d.onList r.strategy s.frame.isSome i tokens list = list := by
  cases hs : r.strategy with
  | threadLocal => cases d <;> rfl
  | taskLocal =>
    rw [h.framed hs]
    cases d with
    | set c | remove | restore c | attach c => rfl
    | detach j => exact absurd rfl (other j)
    | fork c | retire => exact ordinary.elim

theorem Deed.onList_attach (k : Strategy) (inTask : Bool) (i : Nat)
    (tokens : List (Option (Nat × Option Nat))) (c : Context) :
    onList k inTask i tokens (.attach c) = onList k inTask i tokens (.set c) := by
  cases k <;> cases inTask <;> rfl

theorem Deed.onList_of_absent {tokens : List (Option (Nat × Option Nat))} {j : Nat}
    (absent : ∀ x, tokens[j]? ≠ some (some x)) (k : Strategy) (inTask : Bool) (i : Nat)
    (list : List Context) : onList k inTask i tokens (.detach j) list = list := by
  cases k with
  | threadLocal => rfl
  | taskLocal =>
    rw [onList]
    split
    next h => exact absurd h (absent _)
    next => rfl

namespace Cell

variable {tokens : List (Option (Nat × Option Nat))}

theorem relisted_set (live : s.isLive r.id) (c : Context) :
    Site.Relisted r.id (Deed.onList r.strategy s.frame.isSome r.id tokens (.set c)) s (r.set c s) := by
  rcases single_or_stacked live with single | stacked
  · rw [single.set_eq]
    exact .restore single _ (Deed.onList_of_single single (.set c) trivial (by simp) _ _)
  · rw [stacked.set_eq, stacked.taskLocal, stacked.unframed]
    exact .changeStack live fun list => by simp [Deed.onList]

theorem relisted_remove (live : s.isLive r.id) :
    Site.Relisted r.id (Deed.onList r.strategy s.frame.isSome r.id tokens .remove) s (r.remove s) := by
  rcases single_or_stacked live with single | stacked
  · rw [single.remove_eq]
    exact .restore single _ (Deed.onList_of_single single .remove trivial (by simp) _ _)
  · rw [stacked.remove_eq, stacked.taskLocal, stacked.unframed]
    exact .changeStack live fun list => List.tail_reverse

theorem relisted_restore (live : s.isLive r.id) (c : Option Context) :
    Site.Relisted r.id (Deed.onList r.strategy s.frame.isSome r.id tokens (.restore c)) s
      (r.restore c s) := by
  rcases single_or_stacked live with single | stacked
  · exact .restore single _ (Deed.onList_of_single single (.restore c) trivial (by simp) _ _)
  · rw [stacked.restore_eq, stacked.taskLocal, stacked.unframed]
    refine .changeStack live fun list => ?_
    cases c <;> rfl

theorem relisted_retire (r : Cell) (s : Site) :
    Site.Relisted r.id (Deed.onList r.strategy s.frame.isSome r.id tokens .retire) s (r.retire s) := by
  rw [retire]
  cases hs : r.strategy with
  | threadLocal => exact .of_eq rfl fun _ => rfl
  | taskLocal =>
    refine ⟨?_, fun {k} other => .inl ?_, fun filled k => ?_⟩
    · simp [Thread.list, Deed.onList]
    · simp [Thread.list, Std.ExtTreeMap.getD_erase, Ne.symm other]
    · simp only [Std.ExtTreeMap.getElem?_erase]
      split
      next => simp
      next => exact filled k

theorem relisted_detach (live : s.isLive r.id) {j : Nat} {t : Token}
    (present : tokens[j]? = some (some (t.issuer, t.depth))) :
    Site.Relisted r.id (Deed.onList r.strategy s.frame.isSome r.id tokens (.detach j)) s
      (r.detach t s) := by
  by_cases own : t.issuer = r.id
  · rw [detach, if_neg (not_not_intro own)]
    rw [own] at present
    cases hs : r.strategy with
    | threadLocal => exact .restore ⟨live, by simp [hs]⟩ _ fun _ => rfl
    | taskLocal =>
      cases hd : t.depth with
      | some depth =>
        refine .changeStack live fun list => ?_
        simp only [Deed.onList, present, hd, if_true, cutTo_reverse]
      | none =>
        have kept (inTask : Bool) (list : List Context) :
            Deed.onList .taskLocal inTask r.id tokens (.detach j) list = list := by
          simp only [Deed.onList, present, hd]
        cases hf : s.frame with
        | some frame => exact .restore ⟨live, fun _ => by simp [hf]⟩ _ (kept _)
        | none => exact .of_eq rfl (kept _)
  · rw [detach_of_ne own]
    refine .of_eq rfl fun list => ?_
    cases r.strategy with
    | threadLocal => rfl
    | taskLocal =>
      rw [Deed.onList, present]
      cases t.depth with
      | some depth => exact if_neg own
      | none => rfl

end Cell

def Deed.after (r : Cell) (tokens : List (Option (Nat × Token))) (s : Site) (d : Deed) : Site :=
  match d with
  | .retire => r.retire s
  | d => d.act r tokens s

theorem Deed.relisted_after (live : s.isLive r.id) {tokens : List (Option (Nat × Token))}
    (issued : ∀ {i t}, some (i, t) ∈ tokens → t.issuer = i) (d : Deed) :
    Site.Relisted r.id (d.onList r.strategy s.frame.isSome r.id (depths tokens)) s
      (d.after r tokens s) := by
  cases d with
  | set c => exact Cell.relisted_set live c
  | attach c =>
    rw [onList_attach]
    exact Cell.relisted_set live c
  | remove => exact Cell.relisted_remove live
  | restore c => exact Cell.relisted_restore live c
  | fork c =>
    refine .of_eq rfl fun list => ?_
    cases r.strategy <;> cases s.frame.isSome <;> rfl
  | retire => exact Cell.relisted_retire r s
  | detach j =>
    show Site.Relisted _ _ s (act r tokens s (.detach j))
    by_cases present : ∃ x, tokens[j]? = some (some x)
    · obtain ⟨⟨i, t⟩, hx⟩ := present
      have owner := issued (List.mem_of_getElem? hx)
      rw [act_detach hx]
      refine Cell.relisted_detach live ?_
      simp [depths, hx, owner]
    · have absent := not_exists.1 present
      rw [act_detach_of_absent absent]
      refine .of_eq rfl fun list => onList_of_absent (fun x hx => ?_) _ _ _ _
      obtain ⟨o, ho, named⟩ := Option.map_eq_some_iff.1 (List.getElem?_map.symm.trans hx)
      obtain ⟨y, rfl, -⟩ := Option.map_eq_some_iff.1 named
      exact absent y ho

end

end Ambient
