import Ambient.Proofs.Operating

namespace Ambient.Scenario

namespace Trades

variable {subject : Subject} {r : Cell}

theorem activate (r : Cell) (c : Context) :
    Trades (some r) 0 (do
      let g ← onSite (Guard.activate r c)
      Scenario.hold r
      return g) kept := by
  intro w n z st names backed
  have hr : Item.cell r ∈ st.stock + (0 + z) := Multiset.mem_add.2 (.inl names.cell_mem)
  have attached := backed.attach hr c
  have held := attached.hold (r := r) (Multiset.mem_add.2 (.inl names.cell_mem))
  refine ⟨held.congr ?_, rfl, r.isSome_frame_set c st.site, rfl⟩
  rw [Multiset.zero_add, ← add_assoc]
  rfl

theorem activateHeld (r : Cell) (c : Context) :
    Trades subject {.cell r} (onSite (Guard.activate r c)) kept := by
  intro w n z st names backed
  have here : Item.cell r ∈ st.stock + ({.cell r} + z) := by simp
  have attached := backed.attach here c
  refine ⟨attached.congr ?_, rfl, r.isSome_frame_set c st.site, rfl⟩
  rw [← add_assoc, add_comm {Item.token _}]
  rfl

theorem putContext {x : Stock} (target : String) (c : Context) :
    Trades subject x (putContext target c) fun _ => x :=
  quiet fun _ => ⟨_, _, _, _, _, rfl⟩

theorem shell (r : Cell) (c : Option Context) :
    Trades (some r) 0 (Scenario.ask (r.shell c)) Shell.stock := by
  intro w n z st names backed
  refine ⟨backed.act (t := st.site) (fun id => ?_) fun y le here => ?_, .rfl⟩
  · rw [Stock.holds_add, Stock.holds_add, holds_zero]
    exact congrArg (· + _) (holds_shell _ id)
  · have inside : Item.cell r ∈ y + (0 + z) :=
      Multiset.mem_add.2 (.inl (Multiset.mem_of_le le names.cell_mem))
    apply (here.shell inside c).congr
    rw [Multiset.zero_add, add_left_comm]
    rfl

theorem startTask (named : Named) (c : Option Context) (direct : Bool) (steps : List Step) :
    Trades (some named.cell) 0 (startTask named c direct steps) taskStock := by
  apply (shell named.cell c).bind
  intro shell
  split
  next =>
    refine (pure taskStock _).congr ?_ fun _ => rfl
    rw [taskStock_new, Stock.ofCell, add_zero]
  next =>
    have held := ((hold named.cell).frame shell.stock).congr (Multiset.zero_add _) fun _ => rfl
    refine held.bind fun _ => (pure taskStock _).congr ?_ fun _ => rfl
    rw [taskStock_new, Stock.ofCell, add_comm]

end Trades

theorem sound_task {shell : Shell} {holds : Option Cell} {body : Body}
    (h : Level.Sound (.task shell holds body)) : Task.Sound [.task shell holds body] :=
  ⟨⟨shell, holds, body, rfl⟩, by simpa using h⟩

theorem sound_shell (r : Cell) (c : Option Context) (s : Site) (body : Body) :
    Level.Sound (.task (r.shell c s) (some r) body) := by
  rw [Cell.shell]
  split
  next => trivial
  next => exact rfl

theorem sound_shell_of_taskLocal {r : Cell} (hs : r.strategy = .taskLocal) (c : Option Context)
    (s : Site) (holds : Option Cell) (body : Body) :
    Level.Sound (.task (r.shell c s) holds body) := by
  obtain ⟨frame, forked⟩ := Cell.exists_fork hs c s
  rw [Cell.shell, forked]
  trivial

theorem sound_startTask {named : Named} (direct : named.isDirect → named.cell.strategy = .taskLocal)
    (c : Option Context) (asDirect : Bool) (steps : List Step) (st : State) :
    Task.Sound ((startTask named c asDirect steps).run st).1 := by
  by_cases shown : (asDirect && named.isDirect) = true
  · have run : (startTask named c asDirect steps).run st =
        ([.task (named.cell.shell c st.site) none ⟨steps, []⟩], st) := by
      simp only [startTask, ask, StateT.run_bind, StateT.run_get, pure_bind, StateT.run_pure, shown,
        if_true]
      rfl
    rw [run]
    rw [Bool.and_eq_true] at shown
    exact sound_task (sound_shell_of_taskLocal (direct shown.2) c st.site none _)
  · have run : ((startTask named c asDirect steps).run st).1 =
        [.task (named.cell.shell c st.site) (some named.cell) ⟨steps, []⟩] := by
      simp only [startTask, ask, StateT.run_bind, StateT.run_get, pure_bind, StateT.run_pure, shown]
      rfl
    rw [run]
    exact sound_task (sound_shell named.cell c st.site _)

theorem Trades.startTasks (named : Named) (asDirect : Bool) (bodies : List (List Step)) :
    Trades (some named.cell) 0 (bodies.mapM (Scenario.startTask named none asDirect))
      fun tasks => (tasks.map taskStock).sum := by
  induction bodies with
  | nil => exact pure (fun tasks => (tasks.map taskStock).sum) []
  | cons body bodies ih =>
    rw [List.mapM_cons]
    apply (startTask named none asDirect body).bind
    intro t
    have others := (ih.frame (taskStock t)).congr (Multiset.zero_add _) fun _ => rfl
    refine others.bind fun tasks =>
      (pure (fun tasks => (tasks.map taskStock).sum) (t :: tasks)).congr ?_ fun _ => rfl
    rw [List.map_cons, List.sum_cons, add_comm]

theorem sound_startTasks {named : Named}
    (direct : named.isDirect → named.cell.strategy = .taskLocal) (asDirect : Bool)
    (bodies : List (List Step)) (st : State) :
    ∀ t ∈ ((bodies.mapM (startTask named none asDirect)).run st).1, Task.Sound t := by
  induction bodies generalizing st with
  | nil =>
    intro t ht
    cases ht
  | cons body bodies ih =>
    rw [List.mapM_cons]
    exact List.forall_mem_cons.2 ⟨sound_startTask direct none asDirect body st, ih _⟩

namespace Standing

variable {w : Commons} {n : Nat} {stack : List Layer} {x : Stock} {st : State} {subject : Subject}
variable {r : Cell} {named : Named}

theorem fewer (h : Standing w (n + 1) stack x st) : Standing w n stack x st :=
  ⟨h.backed.fewer, h.ordered, h.framed⟩

theorem tell (h : Steady w n x st) (label : String) (report : Option Report) :
    Steady w n x ((log label report).run st).2 :=
  (h.does State.names_none (Trades.log label report)).1

theorem tellAt (h : Steady w n x st) (subject : Subject) (label : String) (report : Report) :
    Steady w n x ((logAt subject label report).run st).2 :=
  (h.does State.names_none (Trades.logAt subject label report)).1

/-- A body begins, be it elsewhere. -/
theorem runBody_of_moved (link : Link) (h : Backed w n (link.stock + stackStock stack) st)
    (same : st.stack = stack) (ordered : Ordered stack) (sound : link.Sound stack)
    (framed : st.site.frame.isSome = link.inFrame (isFramed stack)) (steps : List Step) :
    Steady w n 0 ((runBody link steps).run st).2 := by
  subst same
  refine push (h.congr ?_) ordered sound framed
  rw [Layer.stock, Body.stock_bare, Multiset.zero_add, Multiset.add_zero]

theorem runBody (link : Link) (h : Steady w n link.stock st) (sound : link.Sound st.stack)
    (same : link.inFrame (isFramed st.stack) = isFramed st.stack) (steps : List Step) :
    Steady w n 0 ((runBody link steps).run st).2 :=
  runBody_of_moved link h.backed rfl h.ordered sound (h.framed.trans same.symm) steps

/-- A body keeps its guards to its end. -/
theorem changeGuards (name : String) {g : Guard} (h : Steady w n (kept g + x) st)
    (nonempty : st.stack ≠ []) : Steady w n x ((changeGuards ((name, g) :: ·)).run st).2 := by
  cases here : st.stack with
  | nil => exact absurd here nonempty
  | cons layer below =>
    obtain ⟨⟨steps, guards⟩, link⟩ := layer
    rw [Steady, here] at h
    have run : ((Scenario.changeGuards ((name, g) :: ·)).run st).2 =
        { st with stack := ⟨⟨steps, (name, g) :: guards⟩, link⟩ :: below } := by
      simp only [Scenario.changeGuards, StateT.run_modify, here]
      rfl
    have grown : Standing w n (⟨⟨steps, (name, g) :: guards⟩, link⟩ :: below) x st := by
      refine ⟨h.backed.congr ?_, h.ordered, h.framed⟩
      simp only [stackStock_cons, Body.stock, guardStock_cons]
      abel
    rw [run]
    exact grown.settle

theorem activate (h : Steady w n 0 st) (names : st.Names (some r)) (nonempty : st.stack ≠ [])
    (c : Source) (name : String) (shared : Bool) :
    Steady w n 0 ((Scenario.operate r (.activate c name shared)).run st).2 := by
  obtain ⟨held, settled⟩ := h.does names ((Trades.source c).bind (Trades.activate r))
  cases shared with
  | true =>
    have put := held.spendAll (Trades.putGuard name _)
    exact put
  | false =>
    have put := (held.congr (add_zero _).symm).changeGuards name fun empty =>
      nonempty (settled.stack.symm.trans empty)
    exact put

theorem operate (h : Steady w n 0 st) (names : st.Names (some r)) (nonempty : st.stack ≠ [])
    (op : Operation) : Steady w n 0 ((operate r op).run st).2 := by
  have plain (op : Operation) (inert : ∀ c name shared, op ≠ .activate c name shared) :=
    (h.does names (Trades.operate r op inert)).1
  cases op with
  | activate c name shared => exact h.activate names nonempty c name shared
  | name | get | value | set | remove | equals | keep | inject | snapshot | restore | attach
  | detach | frame => exact plain _ (by rintro _ _ _ ⟨⟩)

theorem renamed (h : Steady w n ({.cell named.cell} + x) st)
    (direct : named.isDirect → named.cell.strategy = .taskLocal) (name : String)
    (owners : Std.TreeMap Nat String compare) :
    Steady w n (st.cells[name]?.elim 0 (fun named => {.cell named.cell}) + x)
      { st with cells := st.cells.insert name named, owners := owners } := by
  refine ⟨h.backed.move rfl rfl rfl ?_ h.backed.tasks ?_, h.ordered, h.framed⟩
  · have parts := total_erase (fun n : Named => {.cell n.cell}) st.cells name
    simp only [State.stock, total_insert, parts]
    abel
  · intro other named' found
    simp only [Std.TreeMap.getElem?_insert] at found
    split at found
    next =>
      cases found
      exact direct
    next => exact h.backed.cells found

theorem unnamed {name : String} (h : Steady w n x st)
    (found : st.cells[name]? = some named) :
    Steady w n ({.cell named.cell} + x) { st with cells := st.cells.erase name } := by
  refine ⟨h.backed.move rfl rfl rfl ?_ h.backed.tasks ?_, h.ordered, h.framed⟩
  · have parts := total_of_some (f := fun n : Named => {.cell n.cell}) found
    simp only [State.stock, parts]
    abel
  · intro other named' found'
    simp only [Std.TreeMap.getElem?_erase] at found'
    split at found'
    next => cases found'
    next => exact h.backed.cells found'

theorem made (h : Steady w n x st) (k : Strategy) :
    let r := (Cell.make k st.site).1
    Steady w n ({.cell r} + x) { st with
      site := (Cell.make k st.site).2
      holders := st.holders.insert r.id (st.holders.getD r.id 0 + 1) } := by
  intro r
  refine ⟨⟨?_, fun id => ?_, h.backed.tasks, h.backed.cells⟩, h.ordered, h.framed⟩
  · have made : Reached w (Cell.make k st.site).2
        (n • st.copies + (st.stock + ({.cell r} + x + stackStock st.stack))) :=
      (h.backed.reached.make k).congr (by simp only [r]; abel)
    exact made
  · have counted := h.backed.counted_hold r id
    rw [← add_assoc {Item.cell r}] at counted
    exact counted

/-- A name that is given anew lets go of what it has been the name of. -/
theorem nameCell (named : Named) (h : Steady w n ({.cell named.cell} + x) st)
    (direct : named.isDirect → named.cell.strategy = .taskLocal) (name owner : String) :
    let name : Play Unit := do
      let old ← cell? name
      modify fun st => { st with
        cells := st.cells.insert name named, owners := st.owners.insert named.cell.id owner }
      if let some old := old then release old.cell
    Steady w n x (name.run st).2 ∧ (name.run st).2.stack = st.stack := by
  have named := h.renamed direct name (st.owners.insert named.cell.id owner)
  cases old : st.cells[name]? with
  | none =>
    simp only [cell?, StateT.run_bind, StateT.run_get, pure_bind, StateT.run_modify,
      StateT.run_pure, old]
    rw [old, Option.elim_none, Multiset.zero_add] at named
    exact ⟨named, rfl⟩
  | some old' =>
    simp only [cell?, StateT.run_bind, StateT.run_get, pure_bind, StateT.run_modify,
      StateT.run_pure, old]
    rw [old] at named
    have settled := named.settled State.names_none (Trades.release old'.cell)
    exact ⟨named.spend (Trades.release old'.cell), settled.stack⟩

theorem makeCell (h : Steady w n 0 st) (name : String) (make : Make) :
    Steady w n 0 ((makeCell name make).run st).2 ∧
      ((makeCell name make).run st).2.stack = st.stack := by
  let k := if make = .threadLocal then Strategy.threadLocal else .taskLocal
  have direct : Named.isDirect ⟨(Cell.make k st.site).1, make⟩ → k = .taskLocal := by
    intro shown
    have same : make = .taskLocal := by simpa [Named.isDirect] using shown
    simp [k, same]
  exact nameCell ⟨_, make⟩ (h.made k) direct name name

theorem command (h : Steady w n 0 st) (c : Command) : Steady w n 0 ((command c).run st).2 := by
  cases c with
  | define c pairs target =>
    have put : Trades none 0 (Scenario.command (.define c pairs target)) fun _ => 0 :=
      (Trades.source c).bind fun c => (Trades.supply (c.withValues pairs)).bind
        (Trades.putContext target)
    exact (h.does State.names_none put).1
  | extract c carrier target =>
    have put : Trades none 0 (Scenario.command (.extract c carrier target)) fun _ => 0 :=
      (Trades.source c).bind fun c => (Trades.supply (Header.extract carrier c)).bind
        (Trades.putContext target)
    exact (h.does State.names_none put).1
  | sameSnapshot a b => exact h
  | inTask => exact h
  | sameCell a b => exact h
  | make name how => exact (h.makeCell name how).1
  | dropCell name =>
    cases found : st.cells[name]? with
    | none =>
      simp only [Scenario.command, cell?, StateT.run_bind, StateT.run_get, pure_bind,
        StateT.run_pure, found]
      exact h
    | some named =>
      simp only [Scenario.command, cell?, StateT.run_bind, StateT.run_get, pure_bind,
        StateT.run_pure, StateT.run_modify, found]
      exact (h.unnamed found).spend (Trades.release named.cell)

theorem begin (h : Steady w n 0 st) (names : st.Names subject) (nonempty : st.stack ≠ [])
    (label : String) :
    let begun := ((beginStep subject label).run st).2
    Steady w n (Stock.ofCell subject) begun ∧ begun.stack ≠ [] := by
  intro begun
  obtain ⟨started, settled⟩ := h.does names (Trades.beginStep subject label)
  exact ⟨started, fun empty => nonempty (settled.stack.symm.trans empty)⟩

section

variable {steps : List Step} {name : String} {found : Option Named}

theorem runActivated (h : Steady w n 0 st) (names : st.Names (some named.cell))
    (nonempty : st.stack ≠ []) (c : Source) :
    Steady w n 0 ((runInside (some named) (.activated c) steps).run st).2 := by
  have first := (Trades.beginStep (some named.cell) "with").bind fun _ =>
    (((Trades.source c).bind (Trades.activate named.cell)).frame
      (Stock.ofCell (some named.cell))).congr (Multiset.zero_add _) fun _ => rfl
  obtain ⟨begun, settled⟩ := h.does names first
  have guarded := runBody (.guarded "with" (some named.cell) _) begun
    (fun empty => nonempty (settled.stack.symm.trans empty)) rfl steps
  exact guarded

theorem runThread (h : Steady w n 0 st) (names : st.Names (found.map (·.cell)))
    (nonempty : st.stack ≠ []) : Steady w n 0 ((runInside found .thread steps).run st).2 := by
  let subject := found.map (·.cell)
  let there := ((beginStep subject "thread").run st).2
  obtain ⟨begun, still⟩ := h.begin names nonempty "thread"
  have moved := begun.backed.thread.moveTo.congr (add_assoc _ _ _).symm
  change Steady w n 0 ((Scenario.runBody (.thread subject ⟨there.site.thread, there.site.frame⟩)
    steps).run ((moveTo .fresh).run there).2).2
  refine runBody_of_moved _ moved ?_ begun.ordered ?_ ?_ steps
  · rfl
  · exact ⟨still, begun.framed⟩
  · rfl

theorem runWorker (h : Steady w n 0 st) (names : st.Names (found.map (·.cell)))
    (nonempty : st.stack ≠ []) :
    Steady w n 0 ((runInside found (.worker name) steps).run st).2 := by
  let subject := found.map (·.cell)
  let there := ((beginStep subject "on").run st).2
  cases busy : isWorking name st.stack with
  | true =>
    simp only [Scenario.runInside, StateT.run_bind, StateT.run_get, pure_bind, busy, if_true]
    exact h.tell "on" _
  | false =>
    simp only [Scenario.runInside, StateT.run_bind, StateT.run_get, pure_bind, busy,
      Bool.false_eq_true, if_false]
    obtain ⟨begun, still⟩ := h.begin names nonempty "on"
    have moved := (begun.backed.takeWorker name).moveTo.congr (add_assoc _ _ _).symm
    change Steady w n 0 ((Scenario.runBody
      (.worker subject name ⟨there.site.thread, there.site.frame⟩) steps).run
      ((moveTo (there.workers.getD name .fresh)).run
        { there with workers := there.workers.erase name }).2).2
    refine runBody_of_moved _ moved ?_ begun.ordered ?_ ?_ steps
    · rfl
    · exact ⟨still, begun.framed⟩
    · rfl

theorem frames_beginStep (subject : Subject) (label : String) (st : State) :
    ((beginStep subject label).run st).2.frames = st.frames := by
  cases subject with
  | none => rfl
  | some r => rfl

theorem runFramed (h : Steady w (n + 1) 0 st) (names : st.Names (found.map (·.cell)))
    (nonempty : st.stack ≠ []) :
    Steady w n 0 ((runInside found (.frame name) steps).run st).2 := by
  let subject := found.map (·.cell)
  let there := ((beginStep subject "enter_sync").run st).2
  cases register : st.frames[name]? with
  | none =>
    simp only [Scenario.runInside, StateT.run_bind, StateT.run_get, pure_bind, register]
    exact h.fewer.tellAt _ "enter_sync" missing
  | some b =>
    simp only [Scenario.runInside, StateT.run_bind, StateT.run_get, pure_bind, register]
    obtain ⟨begun, still⟩ := h.begin names nonempty "enter_sync"
    rw [← frames_beginStep subject "enter_sync"] at register
    have entered := (begun.backed.copy register).enterFrame.congr (add_assoc _ _ _).symm
    change Steady w n 0 ((Scenario.runBody (.framed "enter_sync" subject there.site.frame)
      steps).run ((changeSite fun s => { s with frame := some b }).run there).2).2
    refine runBody_of_moved _ entered ?_ begun.ordered ?_ ?_ steps
    · rfl
    · exact ⟨still, begun.framed⟩
    · rfl

theorem runScoped (h : Steady w n 0 st) (names : st.Names (some named.cell))
    (direct : named.isDirect → named.cell.strategy = .taskLocal) (nonempty : st.stack ≠ [])
    (c : Source) :
    Steady w n 0 ((runInside (some named) (.scoped c) steps).run st).2 := by
  cases shown : named.isDirect with
  | false =>
    simp only [Scenario.runInside, shown, Bool.false_eq_true, if_false]
    exact h.tellAt _ "sync_scope" _
  | true =>
    let first : Play Context := do
      beginStep (some named.cell) "sync_scope"
      source c
    obtain ⟨begun, settled⟩ := h.does names (m := first)
      ((Trades.beginStep (some named.cell) "sync_scope").bind fun _ => Trades.source c)
    let c' := (first.run st).1
    let there := (first.run st).2
    obtain ⟨b, forked⟩ := Cell.exists_fork (direct shown) (some c') there.site
    have inside (y : Stock) : Item.cell named.cell ∈ there.stock + y :=
      Multiset.mem_add.2 (.inl (settled.names names).cell_mem)
    have entered := (begun.backed.fork (inside _) forked).enterFrame.congr (add_assoc _ _ _).symm
    have run : (Scenario.runInside (some named) (.scoped c) steps).run st =
        (Scenario.runBody (.framed "sync_scope" (some named.cell) there.site.frame) steps).run
          ((changeSite fun s => { s with frame := some b }).run there).2 := by
      rw [← forked]
      simp only [Scenario.runInside, shown, if_true]
      rfl
    have nonempty' : there.stack ≠ [] := fun empty => nonempty (settled.stack.symm.trans empty)
    rw [run]
    refine runBody_of_moved _ entered ?_ begun.ordered ?_ ?_ steps
    · rfl
    · exact ⟨nonempty', begun.framed⟩
    · rfl

theorem runInside (h : Steady w (n + 1) 0 st) (names : st.Names (found.map (·.cell)))
    (direct : ∀ named, found = some named → named.isDirect → named.cell.strategy = .taskLocal)
    (nonempty : st.stack ≠ []) (scope : Scope) :
    Steady w n 0 ((runInside found scope steps).run st).2 := by
  match scope, found with
  | .activated c, none => exact h.fewer.tell "with" (some noCell)
  | .activated c, some named => exact h.fewer.runActivated names nonempty c
  | .caught, found =>
    obtain ⟨begun, still⟩ := h.fewer.begin names nonempty "catch"
    exact runBody (.caught _) begun still rfl steps
  | .thread, found => exact h.fewer.runThread names nonempty
  | .worker name, found => exact h.fewer.runWorker names nonempty
  | .frame register, found => exact h.runFramed names nonempty
  | .scoped c, none => exact h.fewer.tell "sync_scope" (some noCell)
  | .scoped c, some named => exact h.fewer.runScoped names (direct named rfl) nonempty c

theorem storeTask (h : Steady w n 0 st) (names : st.Names (found.map (·.cell)))
    (direct : ∀ named, found = some named → named.isDirect → named.cell.strategy = .taskLocal)
    (label register : String) (c : Option Source) (asDirect : Bool) :
    Steady w n 0 ((storeTask found label register c asDirect steps).run st).2 := by
  cases found with
  | none => exact h.tell label (some noCell)
  | some named =>
    have stored (c : Option Context) : Trades (some named.cell) 0 (do
        putTask register (← startTask named c asDirect steps)
        logAt (some named.cell) label .nothing) fun _ => 0 :=
      (Trades.startTask named c asDirect steps).bind_of
        (sound_startTask (direct named rfl) c asDirect steps)
        fun t sound => (Trades.putTask register sound).bind fun _ => Trades.logAt _ label _
    cases c with
    | none => exact (h.does names (stored none)).1
    | some c => exact (h.does names (((Trades.source c).answer some).bind stored)).1

theorem store (h : Steady w (n + 1) 0 st) (names : st.Names (found.map (·.cell)))
    (direct : ∀ named, found = some named → named.isDirect → named.cell.strategy = .taskLocal)
    (how : Keeping) : Steady w n 0 ((store found how steps).run st).2 := by
  cases how with
  | fork register asDirect => exact h.fewer.storeTask names direct "fork" register none asDirect
  | scope c register asDirect =>
    exact h.fewer.storeTask names direct "scope" register (some c) asDirect
  | enter frame register =>
    cases kept : st.frames[frame]? with
    | none =>
      simp only [Scenario.store, StateT.run_bind, StateT.run_get, pure_bind, kept]
      exact h.fewer.tellAt _ "enter" missing
    | some b =>
      simp only [Scenario.store, StateT.run_bind, StateT.run_get, pure_bind, kept]
      let t : Task := [.task (.framed b) none ⟨steps, []⟩]
      have same : {.frame b} + 0 = taskStock t := (taskStock_new (.framed b) none steps).symm
      have copied : Steady w n (taskStock t) st := by
        refine ⟨(h.backed.copy kept).congr ?_, h.ordered, h.framed⟩
        rw [← add_assoc, same]
      have stored := (copied.spendAll (Trades.putTask register (sound_task trivial))).tellAt
        (found.map (·.cell)) "enter" .nothing
      exact stored
  | bound name =>
    cases found with
    | none => exact h.fewer.tell "bind" (some noCell)
    | some named =>
      have bound : Trades (some named.cell) 0 (do
          hold named.cell
          putBound name (← ask (named.cell.bind steps))
          logAt (some named.cell) "bind" .nothing) fun _ => 0 :=
        (Trades.hold named.cell).bind fun _ =>
          (Trades.ask (named.cell.bind steps)).bind_of (P := fun b => b.cell = named.cell)
            (fun _ => rfl) fun b same => by
              rw [← same]
              exact (Trades.putBound name b).bind fun _ => Trades.logAt _ "bind" _
      exact (h.fewer.does names bound).1

theorem spawn (h : Steady w n 0 st) (names : st.Names (found.map (·.cell)))
    (direct : ∀ named, found = some named → named.isDirect → named.cell.strategy = .taskLocal)
    (nonempty : st.stack ≠ []) (asDirect : Bool) (bodies : List (List Step)) :
    Steady w n 0 ((spawn found asDirect bodies).run st).2 := by
  cases found with
  | none => exact h.tell "spawn" (some noCell)
  | some named =>
    cases busy : isInRound st.stack with
    | true =>
      simp only [Scenario.spawn, StateT.run_bind, StateT.run_get, pure_bind, busy, if_true]
      exact h.tellAt _ "spawn" _
    | false =>
      simp only [Scenario.spawn, StateT.run_bind, StateT.run_get, pure_bind, busy,
        Bool.false_eq_true, if_false]
      let first : Play (List Task) := do
        beginStep (some named.cell) "spawn"
        bodies.mapM (startTask named none asDirect)
      let tasks := (first.run st).1
      obtain ⟨begun, settled⟩ := h.does names (m := first)
        ((Trades.beginStep (some named.cell) "spawn").bind fun _ =>
          ((Trades.startTasks named asDirect bodies).frame {.cell named.cell}).congr
            (Multiset.zero_add _) fun _ => rfl)
      have each : ((List.range tasks.length).zip tasks).map (·.2) = tasks :=
        List.map_snd_zip (by rw [List.length_range])
      have next := nextTurn ⟨named.cell, 0, (List.range tasks.length).zip tasks, ∅⟩
        (begun.congr ?_) (fun e he => ?_) fun empty => nonempty (settled.stack.symm.trans empty)
      · exact next
      · have stocks : ((List.range tasks.length).zip tasks).map (fun e => taskStock e.2) =
            tasks.map taskStock := by
          rw [← congrArg (List.map taskStock) each, List.map_map]
          rfl
        rw [Poller.stock, stocks]
        exact add_comm _ _
      · have inside := List.mem_map_of_mem (f := (·.2)) he
        rw [each] at inside
        exact sound_startTasks (direct named rfl) asDirect bodies
          ((beginStep (some named.cell) "spawn").run st).2 e.2 inside

theorem call (h : Steady w n 0 st) (names : st.Names subject) (nonempty : st.stack ≠ [])
    (name : String) : Steady w n 0 ((call subject name).run st).2 := by
  let there : State := { st with bound := st.bound.erase name }
  have taken : Steady w n ((st.bound[name]?).elim 0 boundStock) there := by
    refine ⟨(h.backed.takeBound name).congr ?_, h.ordered, h.framed⟩
    rw [Multiset.zero_add]
  have same : (takeBound name).run st = pure (st.bound[name]?, there) := rfl
  simp only [Scenario.call, StateT.run_bind, same, pure_bind]
  cases kept : st.bound[name]? with
  | none =>
    rw [kept, Option.elim_none] at taken
    exact taken.tellAt subject "call" missing
  | some work =>
    rw [kept, Option.elim_some] at taken
    have named : there.Names subject := names
    have first := ((Trades.beginStep subject "call").frame {.cell work.cell}).bind fun _ =>
      ((Trades.activateHeld work.cell work.context).frame (Stock.ofCell subject)).congr
        (add_comm _ _) fun _ => rfl
    obtain ⟨begun, settled⟩ := (taken.congr (Multiset.zero_add _).symm).does named first
    have called := runBody (.guarded "call" subject _) begun
      (fun empty => nonempty (settled.stack.symm.trans empty)) rfl work.work
    exact called

theorem takeTask (h : Steady w n 0 st) (name : String) :
    Steady w n ((st.tasks[name]?).elim 0 taskStock) { st with tasks := st.tasks.erase name } := by
  refine ⟨(h.backed.takeTask name).congr ?_, h.ordered, h.framed⟩
  rw [Multiset.zero_add]

theorem run_takeTask (name : String) (st : State) : (Scenario.takeTask name).run st =
    pure (st.tasks[name]?, { st with tasks := st.tasks.erase name }) := rfl

theorem poll (h : Steady w n 0 st) (names : st.Names subject) (nonempty : st.stack ≠ [])
    (label register : String) (poller : Poller) (same : poller.stock = Stock.ofCell subject)
    (polls : ∀ below, poller.Sound below) :
    Steady w n 0 ((poll subject label register poller).run st).2 := by
  have taken := h.takeTask register
  simp only [Scenario.poll, StateT.run_bind, run_takeTask, pure_bind]
  cases kept : st.tasks[register]? with
  | none =>
    rw [kept, Option.elim_none] at taken
    exact taken.tellAt subject label missing
  | some t =>
    rw [kept, Option.elim_some] at taken
    have named : State.Names { st with tasks := st.tasks.erase register } subject := names
    have first := ((Trades.beginStep subject label).frame (taskStock t))
    obtain ⟨begun, settled⟩ := (taken.congr (Multiset.zero_add _).symm).does named first
    have resumed := resume _ (begun.congr (by rw [same, add_comm])) (h.backed.tasks kept) (polls _)
      fun empty => nonempty (settled.stack.symm.trans empty)
    exact resumed

theorem dropTask (h : Steady w n 0 st) (subject : Subject) (register : String) :
    Steady w n 0 ((dropTask subject register).run st).2 := by
  have taken := h.takeTask register
  simp only [Scenario.dropTask, StateT.run_bind, run_takeTask, pure_bind]
  cases kept : st.tasks[register]? with
  | none =>
    rw [kept, Option.elim_none] at taken
    exact taken.tellAt subject "drop_task" _
  | some t =>
    rw [kept, Option.elim_some] at taken
    have dropped := (taken.spendAll (Trades.cancel t)).tellAt subject "drop_task" (.flag true)
    exact dropped

theorem await (h : Steady w n 0 st) (inTask : isTaskBody st.stack) (register : String) :
    Steady w n 0 ((await register).run st).2 := by
  have taken := h.takeTask register
  simp only [Scenario.await, StateT.run_bind, run_takeTask, pure_bind]
  cases kept : st.tasks[register]? with
  | none =>
    rw [kept, Option.elim_none] at taken
    exact taken.tell "await" (some missing)
  | some t =>
    rw [kept, Option.elim_some] at taken
    have told := taken.tell "await" none
    have resumed := resume .await (told.congr (add_zero _).symm)
      (h.backed.tasks kept) inTask (ne_nil_of_isTaskBody inTask)
    exact resumed

theorem onCell {name label : String} {act : Cell → Play Report} (h : Steady w n 0 st)
    (acts : ∀ r, st.Names (some r) → Steady w n 0 ((act r).run st).2) :
    Steady w n 0 ((onCell name label act).run st).2 := by
  have run : (subjectOf name).run st = pure (st.cells[name]?.map (·.cell), st) := rfl
  simp only [Scenario.onCell, StateT.run_bind, run, pure_bind]
  cases found : st.cells[name]? with
  | none => exact h.tell label (some noCell)
  | some named =>
    have acted := acts named.cell fun r hr => ⟨name, named, found, Option.some.inj hr⟩
    have told := acted.tellAt (some named.cell) label ((act named.cell).run st).1
    exact told

theorem inTaskOnly {label : String} {act : Play Unit} (h : Steady w n 0 st)
    (acts : isTaskBody st.stack → Steady w n 0 (act.run st).2) :
    Steady w n 0 ((inTaskOnly label act).run st).2 := by
  simp only [Scenario.inTaskOnly, StateT.run_bind, StateT.run_get, pure_bind]
  cases inTask : isTaskBody st.stack with
  | true => exact acts inTask
  | false => exact h.tell label _

theorem leaveBody (h : Steady w n 0 st) : Steady w n 0 ((Scenario.perform .leave).run st).2 := by
  have told := h.tell "return" none
  generalize run : (log "return" none).run st = ran at told
  obtain ⟨⟨⟩, st'⟩ := ran
  rw [Scenario.perform, StateT.run_bind, run]
  change Steady w n 0 ((modify _ : Play Unit).run st').2
  rw [StateT.run_modify]
  cases here : st'.stack with
  | nil =>
    simp only
    exact told
  | cons layer below =>
    obtain ⟨⟨steps, guards⟩, link⟩ := layer
    rw [Steady, here] at told
    have left : Standing w n (⟨⟨[], guards⟩, link⟩ :: below) 0 st' :=
      ⟨told.backed, told.ordered, told.framed⟩
    simp only
    exact left.settle

theorem perform (h : Steady w (n + 1) 0 st) (nonempty : st.stack ≠ []) (step : Step) :
    Steady w n 0 ((perform step).run st).2 := by
  have names (name : String) : st.Names (st.cells[name]?.map (·.cell)) := by
    intro r hr
    obtain ⟨named, found, rfl⟩ := Option.map_eq_some_iff.1 hr
    exact ⟨name, named, found, rfl⟩
  have direct (name : String) (named : Named) (found : st.cells[name]? = some named) :
      named.isDirect → named.cell.strategy = .taskLocal := h.backed.cells found
  cases step with
  | operate cell op => exact h.fewer.onCell fun r named => h.fewer.operate named nonempty op
  | handle cell how => exact h.fewer.onCell fun _ _ => h.fewer.handle how
  | command c => exact (h.fewer.command c).tell c.label _
  | inside cell scope steps => exact h.runInside (names cell) (direct cell) nonempty scope
  | store cell how steps => exact h.store (names cell) (direct cell) how
  | block steps => exact runBody .block (h.fewer.tell "block" none) nonempty rfl steps
  | spawn cell asDirect bodies =>
    exact h.fewer.spawn (names cell) (direct cell) nonempty asDirect bodies
  | call cell name => exact h.fewer.call (names cell) nonempty name
  | poll cell register =>
    exact h.fewer.poll (names cell) nonempty "poll" register _ rfl fun _ => trivial
  | run cell register =>
    exact h.fewer.poll (names cell) nonempty "run" register _ rfl fun _ => trivial
  | dropTask cell register => exact h.fewer.dropTask _ register
  | await register => exact h.fewer.inTaskOnly fun inTask => h.fewer.await inTask register
  | pause =>
    apply h.fewer.inTaskOnly
    intro inTask
    have suspended := suspend [] (h.fewer.tell "yield" none) (by simp) inTask
    exact suspended
  | leave => exact h.fewer.leaveBody
  | fail message => exact (h.fewer.tell "panic" (some .nothing)).unwind message nonempty

theorem advance (h : Steady w (n + 1) 0 st) : Steady w n 0 (advance.run st).2 := by
  cases here : st.stack with
  | nil =>
    have run : Scenario.advance.run st = pure ((), st) := by
      simp only [Scenario.advance, StateT.run_bind, StateT.run_get, pure_bind, here]
      rfl
    rw [run]
    exact h.fewer
  | cons layer below =>
    obtain ⟨⟨steps, guards⟩, link⟩ := layer
    rw [Steady, here] at h
    cases steps with
    | nil =>
      have run : Scenario.advance.run st =
          (do dropGuards guards; setStack below; link.close : Play Unit).run st := by
        simp only [Scenario.advance, StateT.run_bind, StateT.run_get, pure_bind, here]
      have ended := close (h.fewer.dropBody.withStack below) rfl
      rw [run]
      exact ended
    | cons step steps =>
      have run : Scenario.advance.run st = (do
          setStack (⟨⟨steps, guards⟩, link⟩ :: below)
          Scenario.perform step : Play Unit).run st := by
        simp only [Scenario.advance, StateT.run_bind, StateT.run_get, pure_bind, here]
      have begun : Standing w (n + 1) (⟨⟨steps, guards⟩, link⟩ :: below) 0 st :=
        ⟨h.backed, h.ordered, h.framed⟩
      have performed := begun.settle.perform (List.cons_ne_nil _ _) step
      rw [run]
      exact performed

theorem advanceTimes {k : Nat} (h : Steady w (n + k) 0 st) :
    Steady w n 0 ((advanceTimes k).run st).2 := by
  induction k generalizing st with
  | zero => exact h
  | succ k ih => exact ih h.advance

theorem start (n : Nat) : Steady .start n 0 .start := by
  have nothing : State.start.stock = 0 := by simp [State.stock, State.start]
  have copies : State.start.copies = 0 := by simp [State.copies, State.start]
  refine ⟨⟨Reached.start.congr ?_, fun id => ?_, ?_, ?_⟩, trivial, rfl⟩
  · rw [nothing, copies, nsmul_zero]
    rfl
  · rw [nothing]
    simp [State.start, stackStock]
  · intro name t found
    simp [State.start] at found
  · intro name named found
    simp [State.start] at found

theorem makeCells (h : Steady w n 0 st) (cells : List (String × Make)) :
    Steady w n 0 ((makeCells cells).run st).2 ∧
      ((makeCells cells).run st).2.stack = st.stack := by
  induction cells generalizing st with
  | nil => exact ⟨h, rfl⟩
  | cons cell cells ih =>
    obtain ⟨made, same⟩ := h.makeCell cell.1 cell.2
    obtain ⟨all, same'⟩ := ih made
    exact ⟨all, same'.trans same⟩

end

end Standing

/-- A scenario that is about to begin. -/
def opening (cells : List (String × Make)) (steps : List Step) : State :=
  ((do makeCells cells; runBody .top steps : Play Unit).run .start).2

def stateAfter (cells : List (String × Make)) (steps : List Step) (k : Nat) : State :=
  ((advanceTimes k).run (opening cells steps)).2

theorem play_eq (cells : List (String × Make)) (steps : List Step) :
    play cells steps = (stateAfter cells steps (1 + sizeOfBody steps)).log.toList := rfl

theorem steady_opening (cells : List (String × Make)) (steps : List Step) (n : Nat) :
    Steady .start n 0 (opening cells steps) := by
  obtain ⟨made, same⟩ := (Standing.start n).makeCells cells
  exact Standing.runBody .top made same (by rw [same]; rfl) steps

/-- A process has all that the scenario has, each thread, frame and token in a place of its own,
and the unit at work is one of its units. -/
structure Bears (w : Commons) (st : State) : Prop where
  numbered : w.Numbered
  unit : ∃ u, w.site? u = some st.site
  stores : w.Stores (st.site.stock + (st.stock + stackStock st.stack))

/-- Where a process can go on to what a scenario has, it goes on, and the scenario is still in order
for it there. -/
theorem Standing.exists_bears {w : Commons} {n : Nat} {st : State} (h : Steady w n 0 st) :
    ∃ turns, Bears (w.run turns) st ∧ Steady (w.run turns) n 0 st := by
  obtain ⟨turns, numbered, registry, stores⟩ := h.backed.reached
  obtain ⟨u, hu, -⟩ := stores.exists_post registry
  refine ⟨turns, ⟨numbered, ⟨u, hu⟩, stores.le ?_⟩, ?_, h.ordered, h.framed⟩
  · rw [Multiset.zero_add]
    exact add_le_add_right (Multiset.le_add_left _ _) _
  · exact ⟨⟨[], numbered, registry, stores⟩, h.backed.counted, h.backed.tasks, h.backed.cells⟩

theorem Standing.exists_runs {w : Commons} {n : Nat} {st : State} (h : Steady w n 0 st)
    (bears : Bears w st) : ∃ ws : Nat → Commons, ws 0 = w ∧
      (∀ k, ∃ turns, ws (k + 1) = (ws k).run turns) ∧
      ∀ k ≤ n, Bears (ws k) ((Scenario.advanceTimes k).run st).2 := by
  induction n generalizing w st with
  | zero =>
    refine ⟨fun _ => w, rfl, fun _ => ⟨[], rfl⟩, fun k hk => ?_⟩
    obtain rfl : k = 0 := by omega
    exact bears
  | succ n ih =>
    obtain ⟨turns, bears', h'⟩ := h.advance.exists_bears
    obtain ⟨ws, first, next, all⟩ := ih h' bears'
    refine ⟨fun k => k.casesOn w ws, rfl, fun k => ?_, fun k hk => ?_⟩
    · cases k with
      | zero => exact ⟨turns, first⟩
      | succ k => exact next k
    · cases k with
      | zero => exact bears
      | succ k => exact all k (by omega)

/-- Whatever a scenario does, however long it goes on, units that do nothing else than make, use
and retire cells come along with it, step by step. -/
theorem exists_commons (cells : List (String × Make)) (steps : List Step) (n : Nat) :
    ∃ ws : Nat → Commons, (∃ turns, ws 0 = Commons.start.run turns) ∧
      (∀ k, ∃ turns, ws (k + 1) = (ws k).run turns) ∧
      ∀ k ≤ n, Bears (ws k) (stateAfter cells steps k) := by
  obtain ⟨turns, bears, h⟩ := (steady_opening cells steps n).exists_bears
  obtain ⟨ws, first, next, all⟩ := h.exists_runs bears
  exact ⟨ws, ⟨turns, first⟩, next, all⟩

end Ambient.Scenario
