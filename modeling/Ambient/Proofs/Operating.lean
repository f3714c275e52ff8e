import Ambient.Proofs.Layers

namespace Ambient.Scenario

namespace Trades

variable {subject : Subject} {x : Stock} {r : Cell}

theorem ask {α : Type} (f : Site → α) : Trades subject x (ask f) fun _ => x :=
  quiet fun _ => ⟨_, _, _, _, _, rfl⟩

theorem supply {α : Type} (f : StateM Supply α) : Trades subject x (supply f) fun _ => x :=
  quiet fun _ => ⟨_, _, _, _, _, rfl⟩

theorem source (c : Source) : Trades subject x (source c) fun _ => x := by
  cases c with
  | entries pairs => exact supply _
  | register name => exact quiet fun _ => ⟨_, _, _, _, _, rfl⟩

theorem saved (what : Saved) : Trades subject x (saved what) fun _ => x := by
  cases what with
  | snapshot register => exact quiet fun _ => ⟨_, _, _, _, _, rfl⟩
  | context c => exact (source c).bind fun c => pure (fun _ => x) (some c)
  | unbound => exact pure (fun _ => x) none

/-- A cell with a name is put to use. -/
theorem use {f : Site → Site} (framed : ∀ s, (f s).frame.isSome = s.frame.isSome)
    (acts : ∀ {w s z}, Reached w s z → .cell r ∈ z → Reached w (f s) z) :
    Trades (some r) 0 (changeSite f) fun _ => 0 := by
  intro w n z st names backed
  refine ⟨backed.act (fun _ => rfl) fun y le here => ?_, rfl, framed st.site, rfl⟩
  exact acts here (Multiset.mem_add.2 (.inl (Multiset.mem_of_le le names.cell_mem)))

/-- Nothing changes hands where there is an answer. -/
theorem answer {α β : Type} {m : Play α} (h : Trades subject x m fun _ => x) (f : α → β) :
    Trades subject x (do let a ← m; Pure.pure (f a)) fun _ => x :=
  h.bind fun a => pure (fun _ => x) (f a)

theorem putToken (name : String) (k : Token) :
    Trades subject {.token k} (modify fun st => { st with tokens := st.tokens.insert name k })
      fun _ => 0 := by
  intro w n z st names backed
  have parts := total_erase (fun k => {.token k}) st.tokens name
  have put : Backed w n (st.tokens[name]?.elim 0 (fun k => {.token k}) + z)
      { st with tokens := st.tokens.insert name k } := by
    refine backed.move rfl rfl rfl ?_ backed.tasks backed.cells
    simp only [State.stock, total_insert, parts]
    abel
  refine ⟨put.le (add_le_add_left (Multiset.zero_le _) z) fun id => ?_, rfl, rfl, rfl⟩
  cases st.tokens[name]? with
  | none => rfl
  | some k => simp only [Option.elim_some, Stock.holds_add, holds_token, holds_zero]

theorem attach (r : Cell) (c : Source) (target : String) :
    Trades (some r) 0 (operate r (.attach c target)) fun _ => 0 := by
  apply (source c).bind
  intro c w n z st names backed
  let attached : State := { st with site := (r.attach c st.site).2 }
  have backed' := backed.attach (Multiset.mem_add.2 (.inl names.cell_mem)) c
  rw [Multiset.zero_add] at backed'
  have named : attached.Names (some r) := names
  obtain ⟨put, -⟩ := putToken target (r.attach c st.site).1 named backed'
  exact ⟨put, rfl, r.isSome_frame_set c st.site, rfl⟩

theorem detach (r : Cell) (target : String) :
    Trades (some r) 0 (operate r (.detach target)) fun _ => 0 := by
  intro w n z st names backed
  cases found : st.tokens[target]? with
  | none =>
    have run : (Scenario.operate r (.detach target)).run st = (.text "missing", st) := by
      simp only [Scenario.operate, StateT.run_bind, StateT.run_get, pure_bind, found]
      rfl
    rw [run]
    exact ⟨backed, .rfl⟩
  | some k =>
    have run : (Scenario.operate r (.detach target)).run st = (.nothing,
        { st with tokens := st.tokens.erase target, site := r.detach k st.site }) := by
      simp only [Scenario.operate, StateT.run_bind, StateT.run_get, pure_bind, found]
      rfl
    have taken := backed.takeToken target
    have named : State.Names { st with tokens := st.tokens.erase target } (some r) := names
    rw [found, Option.elim_some] at taken
    rw [run]
    refine ⟨taken.act (fun id => ?_) fun y le here => ?_, rfl, r.isSome_frame_detach k st.site, rfl⟩
    · rw [Stock.holds_add {.token k}, holds_token, Nat.zero_add]
    · have there : Reached w st.site ({.token k} + (y + (0 + z))) := here.congr (by abel)
      exact there.detach (Multiset.mem_add.2 (.inl (Multiset.mem_of_le le named.cell_mem)))

theorem frameOf (r : Cell) (c : Option Source) (target : String) :
    Trades (some r) 0 (operate r (.frame c target)) fun _ => 0 := by
  have forks (c : Option Context) (act : Option Bindings → Play Report)
      (absent : act none = return .names none)
      (begun : ∀ b, act (some b) = do
        let st ← get
        set { st with frames := st.frames.insert target b }
        return .names (some (boundNames st.owners b))) :
      Trades (some r) 0 (Scenario.ask (r.fork c) >>= act) fun _ : Report => 0 := by
    intro w n z st names backed
    simp only [Scenario.ask, StateT.run_bind, StateT.run_get, pure_bind, StateT.run_pure]
    cases forked : r.fork c st.site with
    | none =>
      rw [absent]
      exact ⟨backed, .rfl⟩
    | some b =>
      rw [begun]
      exact ⟨backed.putFrame names forked target, rfl, rfl, rfl⟩
  cases c with
  | none =>
    simp only [Scenario.operate, pure_bind]
    exact forks none _ rfl fun _ => rfl
  | some c => exact ((source c).answer some).bind fun c => forks c _ rfl fun _ => rfl

theorem operate (r : Cell) (op : Operation)
    (plain : ∀ c name shared, op ≠ .activate c name shared) :
    Trades (some r) 0 (operate r op) fun _ => 0 := by
  cases op with
  | name => exact pure (fun _ => 0) _
  | get => exact (ask r.current).answer _
  | value key kind => exact (ask r.current).answer _
  | set c =>
    exact (source c).bind fun c => (use (r.isSome_frame_set c) fun h hr => h.set hr c).answer _
  | remove => exact (use r.isSome_frame_remove fun h hr => h.remove hr).answer _
  | equals c => exact (source c).bind fun _ => (ask r.current).answer _
  | keep target =>
    exact (ask r.current).bind fun _ => (quiet fun _ => ⟨_, _, _, _, _, rfl⟩).answer _
  | inject => exact (ask r.current).answer _
  | snapshot target =>
    exact (ask r.binding).bind fun _ => (quiet fun _ => ⟨_, _, _, _, _, rfl⟩).answer _
  | restore what =>
    exact (saved what).bind fun c =>
      (use (r.isSome_frame_restore c) fun h hr => h.restore hr c).answer _
  | attach c target => exact attach r c target
  | detach target => exact detach r target
  | activate c name shared => exact absurd rfl (plain c name shared)
  | frame c target => exact frameOf r c target

end Trades

theorem guardStock_cons (name : String) (g : Guard) (guards : List (String × Guard)) :
    guardStock ((name, g) :: guards) = kept g + guardStock guards := rfl

theorem guardStock_putNewest {name other : String} {g : Guard} {guards : List (String × Guard)}
    (found : guards.find? (·.1 = name) = some (other, g)) (g' : Option Guard) :
    ∃ rest, guardStock guards = kept g + rest ∧
      guardStock (putNewest name g' guards) = g'.elim 0 kept + rest := by
  induction guards with
  | nil => cases found
  | cons e guards ih =>
    obtain ⟨other', h⟩ := e
    by_cases same : other' = name
    · rw [List.find?_cons_of_pos (by simpa using same)] at found
      cases found
      refine ⟨guardStock guards, rfl, ?_⟩
      simp only [putNewest, if_pos same]
      cases g' with
      | none => exact (Multiset.zero_add _).symm
      | some g' => rfl
    · rw [List.find?_cons_of_neg (by simpa using same)] at found
      obtain ⟨rest, before, after⟩ := ih found
      refine ⟨kept h + rest, ?_, ?_⟩
      · rw [guardStock_cons, before, add_left_comm]
      · simp only [putNewest, if_neg same]
        rw [guardStock_cons, after, add_left_comm]

def State.bodyGuards (st : State) : List (String × Guard) :=
  st.stack.head?.elim [] (·.body.guards)

def State.guard? (st : State) (name : String) : Option Guard :=
  match st.bodyGuards.find? (·.1 = name) with
  | some (_, g) => some g
  | none => st.guards[name]?

theorem run_bodyGuards (st : State) : bodyGuards.run st = pure (st.bodyGuards, st) := by
  simp only [bodyGuards, StateT.run_bind, StateT.run_get, pure_bind, State.bodyGuards]
  cases st.stack with
  | nil => rfl
  | cons layer below => rfl

theorem run_guard? (name : String) (st : State) :
    (guard? name).run st = pure (st.guard? name, st) := by
  simp only [guard?, StateT.run_bind, run_bodyGuards, pure_bind, State.guard?]
  cases st.bodyGuards.find? (·.1 = name) with
  | none => rfl
  | some e => rfl

/-- Another guard, or none, is there under the name of a guard, and all else is as it was. -/
structure State.Exchanges (g : Guard) (g' : Option Guard) (st st' : State) : Prop where
  site : st'.site = st.site
  holders : st'.holders = st.holders
  frames : st'.frames = st.frames
  tasks : st'.tasks = st.tasks
  cells : st'.cells = st.cells
  ordered : Ordered st.stack → Ordered st'.stack
  framed : isFramed st'.stack = isFramed st.stack
  stock : ∃ rest, st.stock + stackStock st.stack = kept g + rest ∧
    st'.stock + stackStock st'.stack = g'.elim 0 kept + rest

namespace State.Exchanges

variable {st : State} {name other : String} {g : Guard}

theorem shared (found : st.guards[name]? = some g) (g' : Option Guard) :
    st.Exchanges g g' { st with
      guards := match g' with
        | some g' => st.guards.insert name g'
        | none => st.guards.erase name } := by
  have parts : total kept st.guards = kept g + total kept (st.guards.erase name) :=
    total_of_some found
  refine ⟨rfl, rfl, rfl, rfl, rfl, id, rfl, ?_⟩
  refine ⟨State.stock { st with guards := st.guards.erase name } + stackStock st.stack, ?_, ?_⟩
  · simp only [State.stock, parts]
    abel
  · cases g' with
    | none => exact (Multiset.zero_add _).symm
    | some g' =>
      simp only [State.stock, total_insert, Option.elim_some]
      abel

theorem newest {body : Body} {link : Link} {below : List Layer}
    (here : st.stack = ⟨body, link⟩ :: below)
    (found : body.guards.find? (·.1 = name) = some (other, g)) (g' : Option Guard) :
    st.Exchanges g g'
      { st with stack := ⟨{ body with guards := putNewest name g' body.guards }, link⟩ :: below } := by
  refine ⟨rfl, rfl, rfl, rfl, rfl, ?_, ?_, ?_⟩
  · rw [here]
    exact id
  · rw [here]
    rfl
  · obtain ⟨rest, before, after⟩ := guardStock_putNewest found g'
    refine ⟨rest + (st.stock + (link.stock + stackStock below)), ?_, ?_⟩
    · rw [here, stackStock_cons, Body.stock, before]
      abel
    · rw [stackStock_cons, Body.stock, after]
      change st.stock + _ = _
      abel

theorem changeGuard (found : st.guard? name = some g) (g' : Option Guard) :
    st.Exchanges g g' ((changeGuard name g').run st).2 := by
  rw [State.guard?] at found
  cases newest : st.bodyGuards.find? (·.1 = name) with
  | none =>
    have absent : st.bodyGuards.any (·.1 = name) = false := by
      rw [List.any_eq_false]
      exact List.find?_eq_none.1 newest
    rw [newest] at found
    simp only [Scenario.changeGuard, StateT.run_bind, run_bodyGuards, pure_bind, absent]
    exact shared found g'
  | some e =>
    obtain ⟨other, h⟩ := e
    rw [newest] at found
    cases found
    have named := List.find?_some newest
    have present : st.bodyGuards.any (·.1 = name) = true :=
      List.any_eq_true.2 ⟨_, List.mem_of_find?_eq_some newest, named⟩
    simp only [Scenario.changeGuard, StateT.run_bind, run_bodyGuards, pure_bind, present, if_true]
    cases here : st.stack with
    | nil =>
      rw [State.bodyGuards, here] at newest
      cases newest
    | cons layer below =>
      rw [State.bodyGuards, here] at newest
      simp only [changeGuards, StateT.run_modify, here]
      exact State.Exchanges.newest here newest g'

end State.Exchanges

namespace Standing

variable {w : Commons} {n : Nat} {x : Stock} {st st' : State} {g : Guard}

theorem letGuardGo (h : Steady w n x st) (change : st.Exchanges g none st') :
    Steady w n (kept g + x) st' := by
  obtain ⟨site, holders, frames, tasks, cells, ordered, framed, rest, before, after⟩ := change
  refine ⟨h.backed.move site holders ?_ ?_ ?_ ?_, ordered h.ordered, ?_⟩
  · rw [State.copies, frames, State.copies]
  · calc st'.stock + (kept g + x + stackStock st'.stack)
        = kept g + (st'.stock + stackStock st'.stack) + x := by abel
      _ = st.stock + stackStock st.stack + x := by
        rw [after, before, Option.elim_none, Multiset.zero_add]
      _ = st.stock + (x + stackStock st.stack) := by abel
  · rw [tasks]
    exact h.backed.tasks
  · rw [cells]
    exact h.backed.cells
  · rw [site, framed]
    exact h.framed

/-- The guard stays where it is, and keeps its cell in use. -/
theorem finishGuard (h : Steady w n x st) (change : State.Exchanges g (g.finish st.site).1
      { st with site := (g.finish st.site).2 } st') : Steady w n x st' := by
  obtain ⟨site, holders, frames, tasks, cells, ordered, framed, rest, before, after⟩ := change
  have ended : kept (g.finish st.site).1 = {.cell g.cell} := by
    obtain ⟨q, token⟩ := g
    cases token <;> rfl
  rw [Option.elim_some, ended] at after
  have here : st.stock + (x + stackStock st.stack) =
      Stock.ofToken g.token + ({.cell g.cell} + rest + x) := by
    calc st.stock + (x + stackStock st.stack) = st.stock + stackStock st.stack + x := by abel
      _ = kept g + rest + x := congrArg (· + x) before
      _ = Stock.ofToken g.token + ({.cell g.cell} + rest + x) := by
        rw [kept]
        abel
  have there : st'.stock + (x + stackStock st'.stack) = {.cell g.cell} + rest + x := by
    rw [← after]
    abel
  have counts (id : Nat) : Stock.holds ({.cell g.cell} + rest + x) id =
      Stock.holds (st.stock + (x + stackStock st.stack)) id := by
    rw [here, Stock.holds_add (Stock.ofToken g.token), holds_ofToken, Nat.zero_add]
  refine ⟨⟨?_, fun id => ?_, ?_, ?_⟩, ordered h.ordered, ?_⟩
  · have reached := h.backed.reached
    rw [here, add_left_comm] at reached
    rw [site, State.copies, frames, there]
    exact reached.finish (by simp)
  · rw [holders, there, counts]
    exact h.backed.counted id
  · rw [tasks]
    exact h.backed.tasks
  · rw [cells]
    exact h.backed.cells
  · rw [site, framed]
    exact (g.isSome_frame_finish st.site).trans h.framed

theorem handle (h : Steady w n 0 st) (how : Handling) : Steady w n 0 ((handle how).run st).2 := by
  cases how with
  | finish name =>
    simp only [Scenario.handle, StateT.run_bind, run_guard?, pure_bind]
    cases found : st.guard? name with
    | none => exact h
    | some g =>
      let ended : State := { st with site := (g.finish st.site).2 }
      have found' : ended.guard? name = some g := found
      exact h.finishGuard (.changeGuard found' (g.finish st.site).1)
  | isActive name =>
    simp only [Scenario.handle, StateT.run_bind, run_guard?, pure_bind]
    cases st.guard? name with
    | none => exact h
    | some g => exact h
  | drop name =>
    simp only [Scenario.handle, StateT.run_bind, run_guard?, pure_bind]
    cases found : st.guard? name with
    | none => exact h
    | some g =>
      have dropped := (h.letGuardGo (.changeGuard found none)).spend (Trades.dropGuard g)
      exact dropped

end Standing

end Ambient.Scenario
