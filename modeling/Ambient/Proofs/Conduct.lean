import Mathlib.Algebra.BigOperators.Group.List.Basic
import Ambient.Proofs.Handover
import Ambient.Proofs.Job
import Ambient.Proofs.Reach

namespace Ambient

namespace Stock

theorem exists_rest {α : Type} (f : α → Stock) {l : List α} {i : Nat} {a : α} (h : l[i]? = some a) :
    ∃ rest, (l.map f).sum = f a + rest ∧ ∀ b, ((l.set i b).map f).sum = f b + rest := by
  induction l generalizing i with
  | nil => cases h
  | cons b l ih =>
    cases i with
    | zero =>
      cases h
      exact ⟨(l.map f).sum, rfl, fun _ => rfl⟩
    | succ i =>
      obtain ⟨rest, before, after⟩ := ih h
      refine ⟨f b + rest, ?_, fun c => ?_⟩
      · rw [List.map_cons, List.sum_cons, before, add_left_comm]
      · rw [List.set_cons_succ, List.map_cons, List.sum_cons, after, add_left_comm]

theorem sum_concat {α : Type} (f : α → Stock) (l : List α) (a : α) :
    ((l ++ [a]).map f).sum = f a + (l.map f).sum := by
  rw [List.map_append, List.sum_append, List.map_singleton, List.sum_singleton, add_comm]

def ofTokens (tokens : List Token) : Stock := (tokens.map fun k => {.token k}).sum

def ofGuards (gs : List Guard) : Stock := (gs.map fun g => ofToken g.token).sum

theorem ofTokens_perm {ks ks' : List Token} (h : ks.Perm ks') : ofTokens ks = ofTokens ks' :=
  (h.map _).sum_eq

theorem ofGuards_perm {gs gs' : List Guard} (h : gs.Perm gs') : ofGuards gs = ofGuards gs' :=
  (h.map _).sum_eq

theorem ofToken_finish (g : Guard) (s : Site) : ofToken (g.finish s).1.token = 0 := by
  obtain ⟨cell, token⟩ := g
  cases token with
  | none => rfl
  | some k => rfl

theorem mem_ofToken_add {r : Cell} {k : Option Token} {x : Stock} :
    .cell r ∈ ofToken k + x ↔ .cell r ∈ x := by
  cases k with
  | none => rw [ofToken, zero_add]
  | some k => simp [ofToken]

theorem ofTokens_cons (k : Token) (ks : List Token) :
    ofTokens (k :: ks) = {.token k} + ofTokens ks := rfl

theorem ofGuards_cons (g : Guard) (gs : List Guard) :
    ofGuards (g :: gs) = ofToken g.token + ofGuards gs := rfl

end Stock

/-- A unit is where the process has come to, and has these tokens and guards in hand. -/
structure Held (w : Commons) (x : Stock) (ks : List Token) (gs : List Guard) (framed : Bool)
    (s : Site) : Prop where
  reached : Reached w s (Stock.ofTokens ks + (Stock.ofGuards gs + x))
  kept : ∀ g ∈ gs, .cell g.cell ∈ x
  framed : s.frame.isSome = framed

namespace Held

variable {w : Commons} {s : Site} {x : Stock} {ks : List Token} {gs : List Guard} {framed : Bool}
variable {r : Cell}

theorem mem (hr : .cell r ∈ x) : .cell r ∈ Stock.ofTokens ks + (Stock.ofGuards gs + x) :=
  Multiset.mem_add.2 (.inr (Multiset.mem_add.2 (.inr hr)))

theorem perm (h : Held w x ks gs framed s) {gs' : List Guard} (same : gs.Perm gs') :
    Held w x ks gs' framed s := by
  refine ⟨h.reached.congr ?_, fun g hg => h.kept g (same.mem_iff.2 hg), h.framed⟩
  rw [Stock.ofGuards_perm same]

theorem set (h : Held w x ks gs framed s) (hr : .cell r ∈ x) (c : Context) :
    Held w x ks gs framed (r.set c s) :=
  ⟨h.reached.set (mem hr) c, h.kept, (r.isSome_frame_set c s).trans h.framed⟩

theorem remove (h : Held w x ks gs framed s) (hr : .cell r ∈ x) :
    Held w x ks gs framed (r.remove s) :=
  ⟨h.reached.remove (mem hr), h.kept, (r.isSome_frame_remove s).trans h.framed⟩

theorem restore (h : Held w x ks gs framed s) (hr : .cell r ∈ x) (c : Option Context) :
    Held w x ks gs framed (r.restore c s) :=
  ⟨h.reached.restore (mem hr) c, h.kept, (r.isSome_frame_restore c s).trans h.framed⟩

theorem attach (h : Held w x ks gs framed s) (hr : .cell r ∈ x) (c : Context) :
    Held w x (ks ++ [(r.attach c s).1]) gs framed (r.attach c s).2 := by
  refine ⟨(h.reached.attach (mem hr) c).congr ?_, h.kept, (r.isSome_frame_set c s).trans h.framed⟩
  rw [Stock.ofTokens_perm (List.perm_append_singleton _ _), Stock.ofTokens_cons, add_assoc]

theorem detach (h : Held w x ks gs framed s) (hr : .cell r ∈ x) {i : Nat} {k : Token}
    (hk : ks[i]? = some k) : Held w x (ks.eraseIdx i) gs framed (r.detach k s) := by
  obtain ⟨inside, rfl⟩ := List.getElem?_eq_some_iff.1 hk
  have parts := Stock.ofTokens_perm (List.getElem_cons_eraseIdx_perm inside)
  rw [Stock.ofTokens_cons] at parts
  have there := h.reached
  rw [← parts, add_assoc] at there
  exact ⟨there.detach (mem hr), h.kept, (r.isSome_frame_detach _ s).trans h.framed⟩

theorem activate (h : Held w x ks gs framed s) (hr : .cell r ∈ x) (c : Context) :
    Held w x ks (gs ++ [(Guard.activate r c s).1]) framed (Guard.activate r c s).2 := by
  refine ⟨(h.reached.attach (mem hr) c).congr ?_, ?_, (r.isSome_frame_set c s).trans h.framed⟩
  · rw [Stock.ofGuards_perm (List.perm_append_singleton _ _), Stock.ofGuards_cons, add_assoc,
      add_left_comm]
    rfl
  · rw [List.forall_mem_append, List.forall_mem_singleton]
    exact ⟨h.kept, hr⟩

theorem finish {g : Guard} (h : Held w x ks (g :: gs) framed s) :
    Held w x ks gs framed (g.finish s).2 := by
  obtain ⟨hg, kept⟩ := List.forall_mem_cons.1 h.kept
  have there := h.reached
  rw [Stock.ofGuards_cons, add_assoc, add_left_comm] at there
  exact ⟨there.finish (mem hg), kept, (g.isSome_frame_finish s).trans h.framed⟩

theorem finishAll {order rest : List Guard} (h : Held w x ks gs framed s)
    (all : gs.Perm (order ++ rest)) : Held w x ks rest framed (Guard.finishAll order s) := by
  induction order generalizing gs s with
  | nil => exact h.perm all
  | cons g order ih => exact ih (h.perm all).finish (.refl _)

theorem finishAt (h : Held w x ks gs framed s) (i : Nat) :
    Held w x ks (Guard.finishAt i gs s).1 framed (Guard.finishAt i gs s).2 := by
  have kept := Guard.forall_finishAt h.kept (s := s) (fun g hg => by
    rw [g.cell_finish]
    exact h.kept g hg) i
  rw [Guard.finishAt] at kept ⊢
  cases hi : gs[i]? with
  | none => exact h
  | some g =>
    rw [hi] at kept
    obtain ⟨rest, before, after⟩ := Stock.exists_rest (fun g => Stock.ofToken g.token) hi
    have there := h.reached
    rw [Stock.ofGuards, before, add_assoc, add_left_comm] at there
    have inside : .cell g.cell ∈ Stock.ofTokens ks + (rest + x) :=
      Multiset.mem_add.2 (.inr (Multiset.mem_add.2 (.inr (h.kept g (List.mem_of_getElem? hi)))))
    refine ⟨(there.finish inside).congr ?_, kept, (g.isSome_frame_finish s).trans h.framed⟩
    rw [Stock.ofGuards, after, Stock.ofToken_finish, zero_add]

/-- A guard is out of reach where it is not among the others. -/
theorem aside {g : Guard} :
    Held w x ks (g :: gs) framed s ↔
      Held w (Stock.ofToken g.token + x) ks gs framed s ∧ .cell g.cell ∈ x := by
  have moved : Stock.ofTokens ks + (Stock.ofGuards (g :: gs) + x) =
      Stock.ofTokens ks + (Stock.ofGuards gs + (Stock.ofToken g.token + x)) := by
    rw [Stock.ofGuards_cons, add_assoc, add_left_comm (Stock.ofToken g.token)]
  constructor
  · intro h
    obtain ⟨hg, kept⟩ := List.forall_mem_cons.1 h.kept
    have there := h.reached
    rw [moved] at there
    exact ⟨⟨there, fun g hg => Multiset.mem_add.2 (.inr (kept g hg)), h.framed⟩, hg⟩
  · rintro ⟨h, hg⟩
    have there := h.reached
    rw [← moved] at there
    refine ⟨there, List.forall_mem_cons.2 ⟨hg, fun g' hg' => ?_⟩, h.framed⟩
    exact Stock.mem_ofToken_add.1 (h.kept g' hg')

theorem leave {out : Body.Outcome} (h : Held w x ks out.1.2 framed out.2) (height : Nat) :
    Held w x ks (Body.leave height out).1.2 framed (Body.leave height out).2 := by
  apply h.finishAll
  have parts := List.take_append_drop height out.1.2
  exact (parts ▸ List.perm_append_comm).trans ((List.reverse_perm _).symm.append_right _)

theorem run (h : Held w x ks gs framed s) (hr : .cell r ∈ x) (body : Body) :
    Held w x ks (body.run r gs s).1.2 framed (body.run r gs s).2 := by
  induction body generalizing x gs s with
  | stop how => exact h
  | current next ih => exact ih _ h hr
  | snapshot next ih => exact ih _ h hr
  | set c next ih => exact ih (h.set hr c) hr
  | activate c next ih => exact ih (h.activate hr c) hr
  | finish i next ih => exact ih (h.finishAt i) hr
  | block inner next ihInner ihNext => exact ihNext _ ((ihInner h hr).leave gs.length) hr
  | within c inner next ihInner ihNext =>
    obtain ⟨begun, -⟩ := aside.1 ((h.activate hr c).perm (List.perm_append_singleton _ _))
    have left := (ihInner begun (Multiset.mem_add.2 (.inr hr))).leave gs.length
    exact ihNext _ (finish (aside.2 ⟨left, hr⟩)) hr

theorem follow (h : Held w x ks gs framed s) (hr : .cell r ∈ x) (script : Script)
    (seen : List Reading) :
    let out := script.follow r ⟨ks, gs, seen⟩ s
    Held w x out.1.2.tokens out.1.2.guards framed out.2 := by
  induction script generalizing ks gs seen s with
  | done =>
    have all : gs.Perm (gs.reverse ++ []) := by simp
    exact h.finishAll all
  | pause next => exact h
  | current next ih => exact ih _ h _
  | snapshot next ih => exact ih _ h _
  | set c next ih => exact ih (h.set hr c) _
  | remove next ih => exact ih (h.remove hr) _
  | restore c next ih => exact ih (h.restore hr c) _
  | attach c next ih => exact ih (h.attach hr c) _
  | detach i next ih =>
    simp only [Script.follow, Own.detach]
    cases hi : ks[i]? with
    | none => exact ih h _
    | some k => exact ih (h.detach hr hi) _
  | activate c next ih => exact ih (h.activate hr c) _
  | finish i next ih => exact ih (h.finishAt i) _

end Held

namespace Reached

variable {w : Commons} {s : Site} {x : Stock} {r : Cell}

theorem held (h : Reached w s x) : Held w x [] [] s.frame.isSome s := by
  refine ⟨h.congr ?_, by simp, rfl⟩
  rw [Stock.ofTokens, Stock.ofGuards, List.map_nil, List.map_nil, List.sum_nil, zero_add, zero_add]

/-- What is called somewhere is done in turns, and holds nothing when it has ended. -/
theorem call (h : Reached w s x) (hr : .cell r ∈ x) (body : Body) :
    Reached w (body.call r s).2 x :=
  ((h.held.run hr body).leave 0).reached.le
    ((Multiset.le_add_left x _).trans (Multiset.le_add_left _ _))

theorem callBound {b : Bound Body} (h : Reached w s x) (hb : .cell b.cell ∈ x) :
    Reached w (b.call s).2 x := by
  have begun := h.attach hb b.context
  have called := begun.call (Multiset.mem_add.2 (.inr hb)) b.work
  exact called.finish hb

end Reached

/-- The cell whose context is carried is in use. -/
def Shell.Kept (x : Stock) : Shell → Prop
  | .framed _ => True
  | .carried q _ => .cell q ∈ x

/-- The poll can be ended where the unit is in a frame or not. -/
def Visit.Kept (x : Stock) (framed : Bool) : Visit → Prop
  | .host _ => framed
  | .guarded g => .cell g.cell ∈ x

theorem Visit.mem_stock_add {visit : Visit} {r : Cell} {x : Stock} :
    .cell r ∈ visit.stock + x ↔ .cell r ∈ x := by
  cases visit with
  | host frame => cases frame <;> simp [Visit.stock, Stock.ofFrame]
  | guarded g => exact Stock.mem_ofToken_add

namespace Reached

variable {w : Commons} {s : Site} {x y : Stock} {r : Cell}

theorem shell_kept (hr : .cell r ∈ x) (c : Option Context) (s : Site) : (r.shell c s).Kept x := by
  rw [Cell.shell]
  split
  next => trivial
  next => exact hr

theorem enterKept {shell : Shell} (h : Reached w s (shell.stock + y)) (kept : shell.Kept x)
    (le : x ≤ y) :
    Reached w (shell.enter s).2 ((shell.enter s).1.stock + y) ∧
      (shell.enter s).1.Kept x (shell.enter s).2.frame.isSome := by
  cases shell with
  | framed b => exact ⟨h.enter (by rintro q c ⟨⟩), rfl⟩
  | carried q c =>
    refine ⟨h.enter ?_, kept⟩
    rintro q' c' ⟨⟩
    exact Multiset.mem_of_le le kept

theorem leaveKept {visit : Visit} (h : Reached w s (visit.stock + y))
    (kept : visit.Kept x s.frame.isSome) (le : x ≤ y) :
    Reached w (visit.leave s).2 ((visit.leave s).1.stock + y) ∧ (visit.leave s).1.Kept x := by
  cases visit with
  | host frame => exact ⟨h.leave (by rintro g ⟨⟩) fun _ _ => kept, trivial⟩
  | guarded g =>
    refine ⟨h.leave ?_ (by rintro host ⟨⟩), kept⟩
    rintro g' ⟨⟩
    exact Multiset.mem_of_le le kept

end Reached

namespace Job

def stock (j : Job) : Stock :=
  Stock.ofTokens j.own.tokens + (Stock.ofGuards j.own.guards + j.shell.stock)

structure Kept (x : Stock) (j : Job) : Prop where
  shell : j.shell.Kept x
  guards : ∀ g ∈ j.own.guards, .cell g.cell ∈ x

end Job

namespace Reached

variable {w : Commons} {s : Site} {x : Stock} {r : Cell} {j : Job}

theorem startJob (h : Reached w s x) (hr : .cell r ∈ x) (c : Option Context) (script : Script) :
    Reached w s ((Job.start r c script s).stock + x) ∧ (Job.start r c script s).Kept x := by
  refine ⟨(h.shell hr c).congr ?_, shell_kept hr c s, by simp [Job.start, Own.start]⟩
  simp [Job.stock, Job.start, Own.start, Stock.ofTokens, Stock.ofGuards]

theorem pollJob (h : Reached w s (j.stock + x)) (kept : j.Kept x) (hr : .cell r ∈ x) :
    Reached w (j.poll r s).2 ((j.poll r s).1.stock + x) ∧ (j.poll r s).1.Kept x := by
  obtain ⟨shell, script, ⟨ks, gs, seen⟩⟩ := j
  obtain ⟨ofCells, guards⟩ := kept
  cases script with
  | none => exact ⟨h, ofCells, guards⟩
  | some script =>
    have there : Reached w s (shell.stock + (Stock.ofTokens ks + Stock.ofGuards gs + x)) :=
      h.congr (by simp only [Job.stock]; abel)
    obtain ⟨entered, visit⟩ := there.enterKept ofCells (Multiset.le_add_left x _)
    have begun : Held w ((shell.enter s).1.stock + x) ks gs (shell.enter s).2.frame.isSome
        (shell.enter s).2 :=
      ⟨entered.congr (by abel), fun g hg => Multiset.mem_add.2 (.inr (guards g hg)), rfl⟩
    have followed := begun.follow (Multiset.mem_add.2 (.inr hr)) script seen
    generalize run : script.follow r ⟨ks, gs, seen⟩ (shell.enter s).2 = out at followed
    obtain ⟨⟨rest, ⟨ks', gs', seen'⟩⟩, t⟩ := out
    obtain ⟨reached, guards', framed⟩ := followed
    have back : Reached w t ((shell.enter s).1.stock +
        (Stock.ofTokens ks' + Stock.ofGuards gs' + x)) := reached.congr (by abel)
    rw [← framed] at visit
    obtain ⟨left, ofCells'⟩ := back.leaveKept visit (Multiset.le_add_left x _)
    have poll : Job.poll r ⟨shell, some script, ⟨ks, gs, seen⟩⟩ s =
        (⟨((shell.enter s).1.leave t).1, rest, ks', gs', seen'⟩, ((shell.enter s).1.leave t).2) := by
      simp only [Job.poll, Shell.poll, run]
    rw [poll]
    refine ⟨left.congr (by simp only [Job.stock]; abel), ofCells', fun g hg => ?_⟩
    exact Visit.mem_stock_add.1 (guards' g hg)

/-- A job may be dropped at any time, and its guards are finished in any order. -/
theorem dropJob {order : List Guard} (h : Reached w s (j.stock + x)) (kept : j.Kept x)
    (all : j.own.guards.Perm order) : Reached w (j.drop order s) x := by
  have there : Reached w s (j.shell.stock +
      (Stock.ofTokens j.own.tokens + (Stock.ofGuards j.own.guards + x))) :=
    h.congr (by simp only [Job.stock]; abel)
  have revealed : Held w (hostStock j.shell s.frame + x) j.own.tokens j.own.guards
      (j.shell.reveal s).frame.isSome (j.shell.reveal s) :=
    ⟨there.reveal.congr (by abel), fun g hg => Multiset.mem_add.2 (.inr (kept.guards g hg)), rfl⟩
  have all' : j.own.guards.Perm (order ++ []) := by simpa using all
  have finished := revealed.finishAll all'
  have concealed : Reached w (j.drop order s) (Stock.ofTokens j.own.tokens + x) := by
    refine conceal (finished.reached.congr ?_)
    simp only [Stock.ofGuards, List.map_nil, List.sum_nil]
    abel
  exact concealed.le (Multiset.le_add_left x _)

end Reached
end Ambient
