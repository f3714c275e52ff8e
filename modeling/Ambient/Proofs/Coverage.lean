import Mathlib.Algebra.BigOperators.Group.Finset.Basic
import Ambient.Proofs.Conduct
import Ambient.Proofs.Process

namespace Ambient

open Finset in
theorem Stock.exists_rest_range (f : Nat → Stock) {n i : Nat} (h : i < n) :
    ∃ rest, ∀ g : Nat → Stock, (∀ k, k ≠ i → g k = f k) → ∑ k ∈ range n, g k = g i + rest := by
  refine ⟨∑ k ∈ (range n).erase i, f k, fun g same => ?_⟩
  rw [← add_sum_erase (range n) g (mem_range.2 h)]
  exact congrArg _ (sum_congr rfl fun k hk => same k (ne_of_mem_erase hk))

theorem Stock.exists_mem_of_mem_sum {α : Type} {f : α → Stock} {l : List α} {i : Item}
    (h : i ∈ (l.map f).sum) : ∃ a ∈ l, i ∈ f a := by
  induction l with
  | nil => cases h
  | cons a l ih =>
    rcases Multiset.mem_add.1 h with here | there
    · exact ⟨a, List.mem_cons_self, here⟩
    · obtain ⟨b, hb, inside⟩ := ih there
      exact ⟨b, List.mem_cons_of_mem _ hb, inside⟩

namespace Commons

def threadStock (v : Commons) (n : Nat) : Stock := ∑ m ∈ Finset.range n, {.thread (v.threads m)}

def frameStock (frames : List Bindings) : Stock := (frames.map fun b => {.frame b}).sum

def tokenStock (tokens : List (Option (Nat × Token))) : Stock :=
  (tokens.map fun e => Stock.ofToken (e.map Prod.snd)).sum

/-- One process can come to have all that another one has. -/
structure Covers (w v : Commons) : Prop where
  numbered : v.Numbered
  afforded : ∃ n z, (∀ m, n ≤ m → v.threads m = .fresh) ∧ (∀ {i r}, v.Holds i r → .cell r ∈ z) ∧
    w.Affords v.registry (v.threadStock n + (frameStock v.frames + (tokenStock v.tokens + z)))

variable {w v : Commons} {u : Post} {s t : Site} {n i : Nat} {r : Cell} {x z : Stock}

theorem Affords.grow {g : Registry} {f : Nat → Stock}
    (h : w.Affords g (∑ k ∈ Finset.range n, f k + x)) (fresh : ∀ k, n ≤ k → f k = {.thread .fresh}) (m : Nat) :
    w.Affords g (∑ k ∈ Finset.range (n + m), f k + x) := by
  induction m with
  | zero => exact h
  | succ m ih =>
    have grown := ih.thread
    rw [← Nat.add_assoc, Finset.sum_range_succ, fresh _ (Nat.le_add_right n m)]
    rw [← add_assoc, add_comm {_}] at grown
    exact grown

/-- Where a unit has gone on, all but the place of the unit is as before. -/
theorem exists_places (hu : v.site? u = some s) (inside : u.thread < n) :
    ∃ rest, v.threadStock n + frameStock v.frames = s.stock + rest ∧
      ∀ t : Site, t.frame.isSome = s.frame.isSome →
        (v.put u t).threadStock n + frameStock (v.put u t).frames = t.stock + rest := by
  obtain ⟨threads, split⟩ := Stock.exists_rest_range (fun m => {.thread (v.threads m)}) inside
  have before : v.threadStock n = {.thread s.thread} + threads := by
    rw [threadStock, split _ fun _ _ => rfl, thread_of_site? hu]
  have after (t : Site) : (v.put u t).threadStock n = {.thread t.thread} + threads := by
    rw [threadStock, split _ fun m other => by simp only [put, if_neg other]]
    simp only [put, if_true]
  simp only [before, after, Site.stock, ← Multiset.singleton_add]
  obtain ⟨m, task⟩ := u
  cases task with
  | none =>
    cases hu
    refine ⟨threads + frameStock v.frames, ?_, fun t framed => ?_⟩
    · simp only [Stock.ofFrame, add_zero, add_assoc]
    · have unframed : t.frame = none := by simpa using framed
      simp only [put, unframed, Stock.ofFrame, add_zero, add_assoc]
  | some k =>
    obtain ⟨b, hk, rfl⟩ := Option.map_eq_some_iff.1 hu
    obtain ⟨frames, there, written⟩ := Stock.exists_rest (fun b => {.frame b}) hk
    refine ⟨threads + frames, ?_, fun t framed => ?_⟩
    · simp only [frameStock, there, Stock.ofFrame]
      abel
    · obtain ⟨b', hb⟩ := Option.isSome_iff_exists.1 framed
      simp only [put, hb, frameStock, written, Stock.ofFrame]
      abel

theorem tokenStock_concat (tokens : List (Option (Nat × Token))) (i : Nat) (k : Token) :
    tokenStock (tokens ++ [some (i, k)]) = {.token k} + tokenStock tokens :=
  Stock.sum_concat _ tokens _

theorem frameStock_concat (frames : List Bindings) (b : Bindings) :
    frameStock (frames ++ [b]) = {.frame b} + frameStock frames := Stock.sum_concat _ frames b

theorem cell_not_mem_threadStock (v : Commons) (n : Nat) (q : Cell) :
    .cell q ∉ v.threadStock n := by
  simp [threadStock, Multiset.mem_sum]

theorem cell_not_mem_frameStock (frames : List Bindings) (q : Cell) :
    .cell q ∉ frameStock frames := by
  intro inside
  obtain ⟨b, -, hb⟩ := Stock.exists_mem_of_mem_sum inside
  simp at hb

theorem cell_not_mem_tokenStock (tokens : List (Option (Nat × Token))) (q : Cell) :
    .cell q ∉ tokenStock tokens := by
  intro inside
  obtain ⟨e, -, he⟩ := Stock.exists_mem_of_mem_sum inside
  cases e <;> simp [Stock.ofToken] at he

theorem Numbered.put (h : v.Numbered) (u : Post) (same : t.registry = v.registry) :
    (v.put u t).Numbered := ⟨(congrArg (·.next) same).trans h.next, h.cell, h.token⟩

/-- Where a unit is, and what else is there. -/
structure Finds (w v : Commons) (u : Post) (s : Site) (n : Nat) (rest z : Stock) : Prop where
  registry : s.registry = v.registry
  inside : u.thread < n
  fresh : ∀ m, n ≤ m → v.threads m = .fresh
  cells : ∀ {i r}, v.Holds i r → .cell r ∈ z
  before : v.threadStock n + frameStock v.frames = s.stock + rest
  after : ∀ t : Site, t.frame.isSome = s.frame.isSome →
    (v.put u t).threadStock n + frameStock (v.put u t).frames = t.stock + rest
  reached : Reached w s (rest + (tokenStock v.tokens + z))

theorem Covers.exists_finds (h : w.Covers v) (hu : v.site? u = some s) :
    ∃ n rest z, w.Finds v u s n rest z := by
  obtain ⟨numbered, n, z, fresh, cells, afforded⟩ := h
  have grown : w.Affords v.registry (v.threadStock (n + (u.thread + 1)) + _) :=
    afforded.grow (fun m high => by rw [fresh m high]) (u.thread + 1)
  have inside : u.thread < n + (u.thread + 1) := by omega
  obtain ⟨rest, before, after⟩ := exists_places hu inside
  rw [← add_assoc, before, add_assoc, ← registry_of_site? hu] at grown
  exact ⟨_, rest, z, registry_of_site? hu, inside, fun m high => fresh m (by omega), cells, before,
    after, grown⟩

namespace Finds

variable {rest : Stock}

theorem put (h : w.Finds v u s n rest z) (framed : t.frame.isSome = s.frame.isSome)
    {tokens : List (Option (Nat × Token))} (numbered : Numbered { v.put u t with tokens })
    {z' : Stock} (cells : ∀ {i r}, Holds { v.put u t with tokens } i r → .cell r ∈ z')
    (reached : Reached w t (rest + (tokenStock tokens + z'))) :
    w.Covers { v.put u t with tokens } := by
  refine ⟨numbered, n, z', fun m high => ?_, cells, ?_⟩
  · have other : m ≠ u.thread := Nat.ne_of_gt (Nat.lt_of_lt_of_le h.inside high)
    simp only [Commons.put, if_neg other]
    exact h.fresh m high
  · rw [← add_assoc]
    change w.Affords t.registry
      ((v.put u t).threadStock n + frameStock (v.put u t).frames + (tokenStock tokens + z'))
    rw [h.after t framed, add_assoc]
    exact reached

theorem move (h : w.Finds v u s n rest z) (framed : t.frame.isSome = s.frame.isSome)
    (same : t.registry = s.registry) {tokens : List (Option (Nat × Token))}
    (numbered : Numbered { v.put u t with tokens })
    (reached : Reached w t (rest + (tokenStock tokens + z))) :
    w.Covers { v.put u t with tokens } := by
  refine h.put framed numbered (fun {i r} holds => h.cells (i := i) ⟨holds.1, ?_⟩) reached
  rw [← h.registry, ← same]
  exact holds.2

theorem handBack (h : w.Finds v u s n rest z) (hr : .cell r ∈ z) {j : Nat} {e : Nat × Token}
    (he : v.tokens[j]? = some (some e))
    (numbered : Numbered { v.put u (r.detach e.2 s) with tokens := v.tokens.set j none }) :
    w.Covers { v.put u (r.detach e.2 s) with tokens := v.tokens.set j none } := by
  obtain ⟨spare, before, after⟩ := Stock.exists_rest (fun e => Stock.ofToken (e.map Prod.snd)) he
  have there : Reached w s ({.token e.2} + (rest + (spare + z))) := by
    apply h.reached.congr
    rw [tokenStock, before]
    simp only [Option.map_some, Stock.ofToken]
    abel
  apply h.move (r.isSome_frame_detach e.2 s) (r.registry_detach e.2 s) numbered
  apply (there.detach (by simp [hr])).congr
  rw [tokenStock, after, Option.map_none, Stock.ofToken, zero_add]

theorem fork (h : w.Finds v u s n rest z) (hr : .cell r ∈ z) {c : Option Context} {b : Bindings}
    (forked : r.fork c s = some b) (numbered : Numbered { v with frames := v.frames ++ [b] }) :
    w.Covers { v with frames := v.frames ++ [b] } := by
  refine ⟨numbered, n, z, h.fresh, h.cells, ?_⟩
  have begun := h.reached.fork (by simp [hr]) forked
  rw [Reached, h.registry] at begun
  refine begun.le (le_of_eq ?_)
  change v.threadStock n + (frameStock (v.frames ++ [b]) + (tokenStock v.tokens + z)) = _
  calc
    _ = v.threadStock n + frameStock v.frames + ({.frame b} + (tokenStock v.tokens + z)) := by
      rw [frameStock_concat]
      abel
    _ = _ := by
      rw [h.before]
      abel

theorem cell_not_mem (h : w.Finds v u s n rest z) (q : Cell) : .cell q ∉ rest := by
  intro inside
  have there : .cell q ∈ v.threadStock n + frameStock v.frames :=
    h.before ▸ Multiset.mem_add.2 (.inr inside)
  rcases Multiset.mem_add.1 there with there | there
  · exact v.cell_not_mem_threadStock n q there
  · exact cell_not_mem_frameStock v.frames q there

theorem retire (h : w.Finds v u s n rest z) (hr : .cell r ∈ z)
    (numbered : (v.put u (r.retire s)).Numbered) : w.Covers (v.put u (r.retire s)) := by
  classical
  let others := z.filter fun x => ¬ x = .cell r
  have part : {.cell r} + others ≤ z := by
    have own : {.cell r} ≤ z.filter (· = .cell r) :=
      Multiset.singleton_le.2 (Multiset.mem_filter.2 ⟨hr, rfl⟩)
    exact (Multiset.add_le_add_right own).trans_eq (Multiset.filter_add_not _ z)
  have last : .cell r ∉ rest + (tokenStock v.tokens + others) := by
    simp [others, h.cell_not_mem, cell_not_mem_tokenStock]
  have there : Reached w s ({.cell r} + (rest + (tokenStock v.tokens + others))) := by
    apply h.reached.le
    rw [add_left_comm, add_left_comm {Item.cell r}]
    exact Multiset.add_le_add_left (Multiset.add_le_add_left part)
  refine h.put (congrArg _ (r.frame_retire s)) numbered (fun {i q} holds => ?_) (there.retire last)
  obtain ⟨other, live⟩ := (Cell.isLive_retire (s := s)).1 holds.2
  have kept : .cell q ∈ z := h.cells ⟨holds.1, h.registry ▸ live⟩
  refine Multiset.mem_filter.2 ⟨kept, ?_⟩
  rintro ⟨⟩
  exact other rfl

end Finds

theorem Covers.make (h : w.Covers v) (k : Strategy) : w.Covers (v.step (.make k)) := by
  obtain ⟨numbered, n, z, fresh, cells, afforded⟩ := h
  refine ⟨numbered.make k, n, {.cell ⟨v.registry.next, k⟩} + z, fresh, fun {i q} holds => ?_, ?_⟩
  · obtain ⟨made, live⟩ := holds
    rw [contains_make_iff numbered] at live
    simp only [Commons.step, Cell.make, List.getElem?_append, List.getElem?_singleton] at made
    split at made
    next old =>
      have kept : v.Holds i q := ⟨made, live.resolve_left (by rw [numbered.cell made]; omega)⟩
      simp [cells kept]
    next =>
      split at made
      next =>
        cases made
        simp
      next => cases made
  · refine (afforded.make k).le (le_of_eq ?_)
    change v.threadStock n + (frameStock v.frames + (tokenStock v.tokens + _)) = _
    abel

/-- One step of a process can be made wherever all is there that is in the process. -/
theorem Covers.step (h : w.Covers v) (turn : Turn) : w.Covers (v.step turn) := by
  cases turn with
  | make k => exact h.make k
  | deed i u what =>
    rcases v.step_deed_cases i u what with nothing | ⟨r, s, hr, hu, live, performed⟩
    · rw [nothing]
      exact h
    have numbered := h.numbered.step (.deed i u what)
    obtain ⟨n, rest, z, finds⟩ := h.exists_finds hu
    have kept : .cell r ∈ z := finds.cells ⟨hr, registry_of_site? hu ▸ live⟩
    have inside : .cell r ∈ rest + (tokenStock v.tokens + z) := by simp [kept]
    rw [performed] at numbered ⊢
    cases what with
    | set c =>
      exact finds.move (r.isSome_frame_set c s) (r.registry_set c s) numbered
        (finds.reached.set inside c)
    | remove =>
      exact finds.move (r.isSome_frame_remove s) (r.registry_remove s) numbered
        (finds.reached.remove inside)
    | restore c =>
      exact finds.move (r.isSome_frame_restore c s) (r.registry_restore c s) numbered
        (finds.reached.restore inside c)
    | attach c =>
      refine finds.move (r.isSome_frame_set c s) (r.registry_set c s) numbered
        ((finds.reached.attach inside c).congr ?_)
      rw [tokenStock_concat]
      abel
    | detach j =>
      cases there : v.tokens[j]? with
      | none =>
        simp only [perform, there]
        exact h
      | some entry =>
        cases entry with
        | none =>
          simp only [perform, there]
          exact h
        | some e =>
          simp only [perform, there] at numbered ⊢
          exact finds.handBack kept there numbered
    | fork c =>
      cases forked : r.fork c s with
      | none =>
        simp only [perform, forked]
        exact h
      | some b =>
        simp only [perform, forked] at numbered ⊢
        exact finds.fork kept forked numbered
    | retire => exact finds.retire kept numbered

theorem Covers.run (h : w.Covers v) (turns : List Turn) : w.Covers (v.run turns) := by
  induction turns generalizing v with
  | nil => exact h
  | cons turn turns ih => exact ih (h.step turn)

theorem Covers.start : Covers .start .start := by
  refine ⟨.start, 0, 0, fun _ _ => rfl, ?_, Affords.le Reached.start (Multiset.zero_le _)⟩
  rintro i r ⟨made, -⟩
  cases made

/-- Each unit is where a unit is after some turns there, and what is in use is in use there. -/
theorem Covers.exists_run (h : w.Covers v) (hu : v.site? u = some s) :
    ∃ turns u', (w.run turns).site? u' = some s ∧
      ∀ {i r}, v.Holds i r → (w.run turns).Holds r.id r := by
  obtain ⟨n, rest, z, finds⟩ := h.exists_finds hu
  obtain ⟨turns, u', hu', holds⟩ := finds.reached.exists_run
  exact ⟨turns, u', hu', fun {i r} hr => holds r (by simp [finds.cells hr])⟩

theorem cells_step (hr : v.cells[i]? = some r) (turn : Turn) :
    (v.step turn).cells[i]? = some r := by
  cases turn with
  | make k => exact (List.getElem?_append_left (List.getElem?_eq_some_iff.1 hr).1).trans hr
  | deed j u what =>
    rcases v.step_deed_cases j u what with nothing | ⟨q, s, -, -, -, performed⟩
    · rw [nothing]
      exact hr
    · rw [performed, cells_perform]
      exact hr

theorem threads_step (v : Commons) (turn : Turn) :
    ∃ m, ∀ k, k ≠ m → (v.step turn).threads k = v.threads k := by
  cases turn with
  | make k => exact ⟨0, fun _ _ => rfl⟩
  | deed i u what =>
    refine ⟨u.thread, fun k other => ?_⟩
    rcases v.step_deed_cases i u what with nothing | ⟨r, s, -, -, -, performed⟩
    · rw [nothing]
    rw [performed]
    have elsewhere (t : Site) : (v.put u t).threads k = v.threads k := if_neg other
    cases what with
    | set c | remove | restore c | attach c | retire => exact elsewhere _
    | detach j =>
      rw [perform]
      split
      next => rfl
      next => rfl
      next => exact elsewhere _
    | fork c =>
      rw [perform]
      split <;> rfl

/-- Turns in which a cell stays in use are among what may happen between the polls of its jobs. -/
theorem exists_events (numbered : v.Numbered) (holds : v.Holds i r) {turns : List Turn}
    (kept : ∀ turn ∈ turns, ∀ u, turn ≠ .deed i u .retire) (jobs : List Job) :
    ∃ events : List Event, (∀ e ∈ events, e.Keeps r) ∧ (∀ e ∈ events, ∀ j, e.polls j = false) ∧
      (⟨v.registry, v.threads, jobs⟩ : Process).run r events =
        ⟨(v.run turns).registry, (v.run turns).threads, jobs⟩ := by
  induction turns generalizing v with
  | nil => exact ⟨[], by simp, by simp, rfl⟩
  | cons turn turns ih =>
    obtain ⟨here, later⟩ := List.forall_mem_cons.1 kept
    have live : (v.step turn).registry.live.contains r.id := by
      apply live_step holds.2
      rintro j u q rfl hq same
      have number := (numbered.cell hq).symm.trans (same.trans (numbered.cell holds.1))
      exact here u (by rw [number])
    have holds' : (v.step turn).Holds i r := ⟨cells_step holds.1 turn, live⟩
    obtain ⟨events, keeps, polls, run⟩ := ih (numbered.step turn) holds' later
    obtain ⟨m, others⟩ := v.threads_step turn
    let s : Site := ⟨(v.step turn).registry, (v.step turn).threads m, none⟩
    refine ⟨.other m s :: events, List.forall_mem_cons.2 ⟨live, keeps⟩,
      List.forall_mem_cons.2 ⟨fun _ => rfl, polls⟩, ?_⟩
    have threads : (fun k => if k = m then s.thread else v.threads k) = (v.step turn).threads := by
      funext k
      split
      next same => rw [same]
      next other => exact (others k other).symm
    have moved : (⟨v.registry, v.threads, jobs⟩ : Process).step r (.other m s) =
        ⟨(v.step turn).registry, (v.step turn).threads, jobs⟩ := by
      rw [← threads]
      rfl
    rw [Process.run_cons, moved]
    exact run

end Commons

namespace Pool

/-- All that is in a pool can be had, and the work that is bound keeps its cells in use. -/
structure Covered (w : Commons) (p : Pool) : Prop where
  covers : w.Covers p.commons
  holds {k : Nat} {b : Bound Body} :
    p.works[k]? = some (some b) → p.commons.Holds b.cell.id b.cell

variable {w : Commons} {p : Pool}

theorem works_of_set {j k : Nat} {b : Bound Body} (hb : (p.works.set j none)[k]? = some (some b)) :
    p.works[k]? = some (some b) := by
  rw [List.getElem?_set] at hb
  split at hb
  next => split at hb <;> cases hb
  next => exact hb

theorem Covered.turn (h : p.Covered w) (t : Turn) : (p.step (.turn t)).Covered w := by
  by_cases refused : p.refuses t
  · rw [step, if_pos refused]
    exact h
  · have accepted : p.step (.turn t) = { p with commons := p.commons.step t } := if_neg refused
    rw [accepted]
    refine ⟨h.covers.step t, fun {k b} hb => ?_⟩
    have bound : p.works[k]? = some (some b) := hb
    have live := live_step (engages_of_works bound) (h.holds bound).2 (.turn t)
    rw [accepted] at live
    exact ⟨Commons.cells_step (h.holds bound).1 t, live⟩

theorem Covered.bind (h : p.Covered w) (i : Nat) (u : Post) (work : Body) :
    (p.step (.bind i u work)).Covered w := by
  rw [step]
  split
  next r s hr hu =>
    split
    next live =>
      refine ⟨h.covers, fun {k b} hb => ?_⟩
      rw [List.getElem?_append, List.getElem?_singleton] at hb
      split at hb
      next => exact h.holds hb
      next =>
        split at hb
        next =>
          cases hb
          have number := h.covers.numbered.cell hr
          exact ⟨number ▸ hr, Commons.registry_of_site? hu ▸ live⟩
        next => cases hb
    next => exact h
  next => exact h

theorem Covered.call (h : p.Covered w) (k : Nat) (u : Post) : (p.step (.call k u)).Covered w := by
  rw [step]
  rcases p.call_cases k u with nothing | ⟨b, s, hb, hu, done⟩
  · rw [nothing]
    exact h
  rw [done]
  obtain ⟨n, rest, z, finds⟩ := h.covers.exists_finds hu
  have kept : .cell b.cell ∈ z := finds.cells (h.holds hb)
  obtain ⟨registry, framed⟩ := b.grounded_call s
  have same : (b.call s).2.registry = p.commons.registry := registry.trans finds.registry
  have called : Reached w (b.call s).2 (rest + (Commons.tokenStock p.commons.tokens + z)) :=
    finds.reached.callBound (by simp [kept])
  refine ⟨finds.move framed registry (h.covers.numbered.put u same) called, fun {j b'} hb' => ?_⟩
  have holds := h.holds (works_of_set hb')
  refine ⟨holds.1, ?_⟩
  change (b.call s).2.registry.live.contains b'.cell.id
  rw [same]
  exact holds.2

theorem Covered.step (h : p.Covered w) (m : Move) : (p.step m).Covered w := by
  cases m with
  | turn t => exact h.turn t
  | bind i u work => exact h.bind i u work
  | call k u => exact h.call k u
  | letGo k => exact ⟨h.covers, fun hb => h.holds (works_of_set hb)⟩

theorem Covered.run (h : p.Covered w) (moves : List Move) : (p.run moves).Covered w := by
  induction moves generalizing p with
  | nil => exact h
  | cons m moves ih => exact ih (h.step m)

/-- Whatever work is bound and called, a pool comes to nothing that deeds alone cannot lead to. -/
theorem covered_run (moves : List Move) : ((⟨.start, []⟩ : Pool).run moves).Covered .start := by
  have start : (⟨.start, []⟩ : Pool).Covered .start := ⟨.start, fun hb => nomatch hb⟩
  exact start.run moves

end Pool
end Ambient
