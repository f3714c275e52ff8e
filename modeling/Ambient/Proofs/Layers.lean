import Ambient.Proofs.Custody

namespace Ambient.Scenario

/-- Whether the body of a layer runs in a frame, given whether what is below does. -/
def Link.inFrame (below : Bool) : Link → Bool
  | .top | .thread .. | .worker .. => false
  | .framed .. | .task (.host _) _ _ => true
  | .block | .guarded .. | .caught _ | .task (.guarded _) _ _ => below

def isFramed : List Layer → Bool
  | [] => false
  | layer :: below => layer.link.inFrame (isFramed below)

theorem stackStock_cons (body : Body) (link : Link) (below : List Layer) :
    stackStock (⟨body, link⟩ :: below) = body.stock + (link.stock + stackStock below) :=
  add_assoc _ _ _

@[simp] theorem Body.stock_bare (steps : List Step) : Body.stock ⟨steps, []⟩ = 0 := rfl

@[simp] theorem taskStock_nil : taskStock [] = 0 := rfl

@[simp] theorem taskStock_cons (level : Level) (inner : List Level) :
    taskStock (level :: inner) = level.stock + taskStock inner := rfl

theorem taskStock_new (shell : Shell) (holds : Option Cell) (steps : List Step) :
    taskStock [.task shell holds ⟨steps, []⟩] = shell.stock + Stock.ofCell holds := by
  simp only [taskStock_cons, taskStock_nil, Level.stock, Body.stock_bare, add_zero]

@[simp] theorem taskStock_append (inner outer : List Level) :
    taskStock (inner ++ outer) = taskStock inner + taskStock outer := by
  rw [taskStock, List.map_append, List.sum_append]
  rfl

@[simp] theorem taskStock_reverse (t : Task) : taskStock t.reverse = taskStock t := by
  rw [taskStock, List.map_reverse, List.sum_reverse]
  rfl

def Poller.Sound (below : List Layer) : Poller → Prop
  | .await => isTaskBody below
  | .round state => ∀ e ∈ state.waiting, Task.Sound e.2
  | .once .. | .untilReady .. => True

/-- Only the scenario itself has nothing below it. Whoever has been left in a frame is in a frame
where the layer ends, and a task without a frame keeps its cell in use. -/
def Link.Sound (below : List Layer) : Link → Prop
  | .top => below = []
  | .block | .guarded .. | .caught _ => below ≠ []
  | .task (.host frame) _ poller => below ≠ [] ∧ frame.isSome = isFramed below ∧ poller.Sound below
  | .task (.guarded g) holds poller => below ≠ [] ∧ holds = some g.cell ∧ poller.Sound below
  | .framed _ _ host => below ≠ [] ∧ host.isSome = isFramed below
  | .thread _ host | .worker _ _ host => below ≠ [] ∧ host.frame.isSome = isFramed below

def Ordered : List Layer → Prop
  | [] => True
  | layer :: below => layer.link.Sound below ∧ Ordered below

theorem Link.Sound.task {below : List Layer} {visit : Visit} {holds : Option Cell} {poller : Poller}
    (h : (Link.task visit holds poller).Sound below) : below ≠ [] ∧ poller.Sound below := by
  cases visit with
  | host frame => exact ⟨h.1, h.2.2⟩
  | guarded g => exact ⟨h.1, h.2.2⟩

/-- These layers are at work, and `x` is in hand. -/
structure Standing (w : Commons) (n : Nat) (stack : List Layer) (x : Stock) (st : State) :
    Prop where
  backed : Backed w n (x + stackStock stack) st
  ordered : Ordered stack
  framed : st.site.frame.isSome = isFramed stack

abbrev Steady (w : Commons) (n : Nat) (x : Stock) (st : State) : Prop := Standing w n st.stack x st

namespace Standing

variable {w : Commons} {n : Nat} {stack below : List Layer} {x y z : Stock} {st : State}

theorem congr (h : Standing w n stack x st) (same : x = y) : Standing w n stack y st := same ▸ h

theorem withStack (h : Standing w n stack x st) (other : List Layer) :
    Standing w n stack x { st with stack := other } :=
  ⟨⟨h.backed.reached, h.backed.counted, h.backed.tasks, h.backed.cells⟩, h.ordered, h.framed⟩

theorem settle (h : Standing w n stack x st) : Steady w n x { st with stack } := h.withStack stack

section

variable {α : Type} {subject : Subject} {m : Play α} {u : α → Stock}

theorem trade_of_names (h : Standing w n stack (x + z) st) (names : st.Names subject)
    (trades : Trades subject x m u) : Standing w n stack (u (m.run st).1 + z) (m.run st).2 := by
  have backed := h.backed
  rw [add_assoc] at backed
  obtain ⟨traded, settled⟩ := trades names backed
  exact ⟨traded.congr (add_assoc _ _ _).symm, h.ordered, settled.framed.trans h.framed⟩

theorem trade (h : Standing w n stack (x + z) st) (trades : Trades none x m u) :
    Standing w n stack (u (m.run st).1 + z) (m.run st).2 :=
  h.trade_of_names State.names_none trades

end

/-- A body begins on top of the others. -/
theorem push {layer : Layer} (h : Backed w n (layer.stock + x + stackStock st.stack) st)
    (ordered : Ordered st.stack) (sound : layer.link.Sound st.stack)
    (framed : st.site.frame.isSome = isFramed (layer :: st.stack)) :
    Steady w n x ((push layer).run st).2 := by
  have stocked : Backed w n (x + stackStock (layer :: st.stack)) st := by
    apply h.congr
    simp only [stackStock, List.map_cons, List.sum_cons]
    abel
  exact ⟨⟨stocked.reached, stocked.counted, stocked.tasks, stocked.cells⟩, ⟨sound, ordered⟩, framed⟩

theorem pushBlock {body : Body} (h : Steady w n (body.stock + x) st) (nonempty : st.stack ≠ []) :
    Steady w n x ((Scenario.push ⟨body, .block⟩).run st).2 := by
  refine push (h.backed.congr ?_) h.ordered nonempty h.framed
  simp only [Layer.stock, Link.stock]
  abel

/-- A level of a task goes on on top of whoever polls the task. -/
theorem enter {shell : Shell} {holds : Option Cell} {body : Body} {poller : Poller}
    (h : Steady w n (Level.stock (.task shell holds body) + (poller.stock + x)) st)
    (sound : Level.Sound (.task shell holds body)) (polls : poller.Sound st.stack)
    (nonempty : st.stack ≠ []) :
    Steady w n x ((do
      let visit ← onSite shell.enter
      Scenario.push ⟨body, .task visit holds poller⟩).run st).2 := by
  have entered : Backed w n ((shell.enter st.site).1.stock +
      (Stock.ofCell holds + body.stock + (poller.stock + x) + stackStock st.stack))
      { st with site := (shell.enter st.site).2 } := by
    refine h.backed.act (fun id => ?_) fun y _ here => ?_
    · simp only [Level.stock, Stock.holds_add, holds_shell, holds_visit]
      omega
    · have there : Reached w st.site (shell.stock +
          (Stock.ofCell holds + body.stock + (poller.stock + x) + stackStock st.stack + y)) :=
        here.congr (by simp only [Level.stock]; abel)
      refine (there.enter ?_).congr (by abel)
      rintro q c rfl
      obtain rfl : holds = some q := sound
      simp [Stock.ofCell]
  change Steady w n x ((Scenario.push ⟨body, .task (shell.enter st.site).1 holds poller⟩).run
    { st with site := (shell.enter st.site).2 }).2
  refine push (entered.congr ?_) h.ordered ?_ ?_
  · simp only [Layer.stock, Link.stock]
    abel
  · cases shell with
    | framed b => exact ⟨nonempty, h.framed, polls⟩
    | carried q c => exact ⟨nonempty, sound, polls⟩
  · cases shell with
    | framed b => rfl
    | carried q c => exact (q.isSome_frame_set c st.site).trans h.framed

theorem ne_nil_of_isTaskBody (inTask : isTaskBody stack) : stack ≠ [] := by
  rintro rfl
  cases inTask

theorem resumeInner {levels : List Level} (h : Steady w n (taskStock levels) st)
    (sound : ∀ level ∈ levels, level.Sound) (inTask : isTaskBody st.stack) :
    Steady w n 0 ((resumeLevels levels .await).run st).2 := by
  induction levels generalizing st with
  | nil => exact h
  | cons level inner ih =>
    rw [taskStock_cons] at h
    rw [List.forall_mem_cons] at sound
    have nonempty := ne_nil_of_isTaskBody inTask
    cases level with
    | block body => exact ih (h.pushBlock nonempty) sound.2 inTask
    | task shell holds body =>
      have polled := h.congr (y := _ + (Poller.await.stock + _))
        (congrArg _ (Multiset.zero_add _).symm)
      exact ih (polled.enter sound.1 inTask nonempty) sound.2 rfl

theorem resume (poller : Poller) {t : Task} (h : Steady w n (taskStock t + poller.stock) st)
    (sound : t.Sound) (polls : poller.Sound st.stack) (nonempty : st.stack ≠ []) :
    Steady w n 0 ((resume t poller).run st).2 := by
  obtain ⟨shell, holds, body, last⟩ := sound.outermost
  obtain ⟨inner, rfl⟩ := List.getLast?_eq_some_iff.1 last
  have levels := sound.levels
  have run : Scenario.resume (inner ++ [.task shell holds body]) poller =
      resumeLevels (.task shell holds body :: inner.reverse) poller := by
    rw [Scenario.resume, List.reverse_append]
    rfl
  rw [run]
  refine resumeInner (enter (h.congr ?_) (levels _ (by simp)) polls nonempty) ?_ rfl
  · rw [taskStock_append, taskStock_cons, taskStock_nil, taskStock_reverse]
    abel
  · intro level hl
    exact levels level (List.mem_append_left _ (List.mem_reverse.1 hl))

section

variable {α : Type} {subject : Subject} {m : Play α} {u : α → Stock}

theorem settled (h : Standing w n stack (x + z) st) (names : st.Names subject)
    (trades : Trades subject x m u) : st.Settled (m.run st).2 :=
  (trades names (h.backed.congr (add_assoc _ _ _))).2

theorem stays (h : Steady w n (x + z) st) (names : st.Names subject)
    (trades : Trades subject x m u) :
    Steady w n (u (m.run st).1 + z) (m.run st).2 := by
  rw [Steady, (h.settled names trades).stack]
  exact h.trade_of_names names trades

theorem does (h : Steady w n x st) (names : st.Names subject) (trades : Trades subject x m u) :
    Steady w n (u (m.run st).1) (m.run st).2 ∧ st.Settled (m.run st).2 := by
  have framed := h.congr (add_zero x).symm
  exact ⟨(framed.stays names trades).congr (add_zero _), framed.settled names trades⟩

end

theorem spend {m : Play Unit} (h : Steady w n (x + z) st) (trades : Trades none x m fun _ => 0) :
    Steady w n z (m.run st).2 :=
  (h.stays State.names_none trades).congr (Multiset.zero_add z)

/-- What is all taken over. -/
theorem spendAll {m : Play Unit} (h : Steady w n x st) (trades : Trades none x m fun _ => 0) :
    Steady w n 0 (m.run st).2 :=
  (h.does State.names_none trades).1

theorem nextTurn (round : Round) (h : Steady w n (Poller.stock (.round round)) st)
    (sound : Poller.Sound st.stack (.round round)) (nonempty : st.stack ≠ []) :
    Steady w n 0 ((nextTurn round).run st).2 := by
  obtain ⟨cell, turn, waiting, outcomes⟩ := round
  cases waiting with
  | nil => exact h.spendAll (Trades.endStep (some cell) "spawn" _)
  | cons first waiting =>
    obtain ⟨turn', t⟩ := first
    rw [Poller.Sound, List.forall_mem_cons] at sound
    refine resume _ (h.congr ?_) sound.1 sound.2 nonempty
    simp only [Poller.stock, List.map_cons, List.sum_cons]
    abel

theorem le (h : Standing w n stack x st) (le : y ≤ x) (holds : ∀ id, y.holds id = x.holds id) :
    Standing w n stack y st := by
  refine ⟨h.backed.le (add_le_add_left le _) fun id => ?_, h.ordered, h.framed⟩
  rw [Stock.holds_add, holds, ← Stock.holds_add]

/-- The unit that has polled a task goes on where it was. -/
theorem leave {body : Body} {visit : Visit} {holds : Option Cell} {poller : Poller}
    (h : Standing w n (⟨body, .task visit holds poller⟩ :: below) x st) :
    let level := Level.task (visit.leave st.site).1 holds body
    level.Sound ∧
      Standing w n below (level.stock + (poller.stock + x)) ((onSite visit.leave).run st).2 := by
  intro level
  have sound : (Link.task visit holds poller).Sound below := h.ordered.1
  have there : Backed w n (visit.stock +
      (body.stock + (Stock.ofCell holds + (poller.stock + (x + stackStock below))))) st := by
    apply h.backed.congr
    simp only [stackStock_cons, Link.stock]
    abel
  have left : Backed w n (level.stock + (poller.stock + x) + stackStock below)
      { st with site := (visit.leave st.site).2 } := by
    refine there.act (fun id => ?_) fun y _ here => ?_
    · simp only [level, Level.stock, Stock.holds_add, holds_shell, holds_visit]
      omega
    · have gone := (here.congr (add_left_comm _ _ _)).leave ?_ ?_
      · apply gone.congr
        simp only [level, Level.stock]
        abel
      · rintro g rfl
        simp [sound.2.1, Stock.ofCell]
      · rintro host rfl
        exact h.framed
  cases visit with
  | host frame => exact ⟨trivial, left, h.ordered.2, sound.2.1⟩
  | guarded g =>
    refine ⟨sound.2.1, left, h.ordered.2, ?_⟩
    exact (g.isSome_frame_finish st.site).trans h.framed

theorem suspend (inner : List Level) (h : Standing w n stack (taskStock inner) st)
    (sound : ∀ level ∈ inner, level.Sound) (inTask : isTaskBody stack) :
    Steady w n 0 ((suspend inner stack).run st).2 := by
  induction stack generalizing inner st with
  | nil => cases inTask
  | cons layer below ih =>
    obtain ⟨body, link⟩ := layer
    cases link with
    | block =>
      have taken : Standing w n below (taskStock (inner ++ [.block body])) st := by
        refine ⟨h.backed.congr ?_, h.ordered.2, h.framed⟩
        simp only [taskStock_append, taskStock_cons, taskStock_nil, Level.stock, stackStock_cons,
          Link.stock]
        abel
      refine ih _ taken ?_ inTask
      rw [List.forall_mem_append]
      exact ⟨sound, by simp [Level.Sound]⟩
    | task visit holds poller =>
      obtain ⟨level, left⟩ := h.leave
      let t : Task := inner ++ [.task (visit.leave st.site).1 holds body]
      have whole : t.Sound := by
        refine ⟨⟨_, _, _, List.getLast?_concat⟩, ?_⟩
        rw [List.forall_mem_append]
        exact ⟨sound, by simpa using level⟩
      have taken : Standing w n below (taskStock t + poller.stock)
          ((onSite visit.leave).run st).2 := by
        apply left.congr
        simp only [t, taskStock_append, taskStock_cons, taskStock_nil]
        abel
      obtain ⟨nonempty, polled⟩ := h.ordered.1.task
      cases poller with
      | await => exact ih _ (taken.congr (add_zero _)) whole.levels polled
      | once subject name =>
        have put := taken.settle.spend (Trades.putTask name whole)
        have told := put.spendAll (Trades.endStep subject "poll" (.text "pending"))
        exact told
      | untilReady subject name => exact resume _ taken.settle whole trivial nonempty
      | round state =>
        let last := { state with waiting := state.waiting ++ [(state.turn, t)] }
        have same : taskStock t + Poller.stock (.round state) = Poller.stock (.round last) := by
          simp only [Poller.stock, last, List.map_append, List.sum_append, List.map_cons,
            List.map_nil, List.sum_cons, List.sum_nil]
          abel
        refine nextTurn last (taken.settle.congr same) (fun e he => ?_) nonempty
        rcases List.mem_append.1 he with old | new
        · exact polled e old
        · cases List.mem_singleton.1 new
          exact whole
    | top | guarded | caught | thread | worker | framed => cases inTask

/-- The guards of a body go when the body ends. -/
theorem dropBody {body : Body} {link : Link} (h : Standing w n (⟨body, link⟩ :: below) x st) :
    Standing w n (⟨{ body with guards := [] }, link⟩ :: below) x
      ((dropGuards body.guards).run st).2 := by
  have there : Backed w n (body.stock + (x + (link.stock + stackStock below))) st := by
    apply h.backed.congr
    rw [stackStock_cons]
    abel
  obtain ⟨dropped, settled⟩ := Trades.dropGuards body.guards State.names_none there
  refine ⟨dropped.congr ?_, h.ordered, settled.framed.trans h.framed⟩
  rw [stackStock_cons, Body.stock_bare, Multiset.zero_add, Multiset.zero_add]

section

variable {steps : List Step} {visit : Visit} {holds : Option Cell} {poller : Poller} {host : Host}
variable {subject : Subject} {label name : String} {g : Guard} {link : Link}

theorem bare (h : Standing w n (⟨⟨steps, []⟩, link⟩ :: below) 0 st) :
    Backed w n (link.stock + stackStock below) st := by
  apply h.backed.congr
  rw [stackStock_cons, Body.stock_bare, Multiset.zero_add, Multiset.zero_add]

/-- The layer ends, and what its link has kept is in hand. -/
theorem pop (h : Standing w n (⟨⟨steps, []⟩, link⟩ :: below) 0 st)
    (framed : link.inFrame (isFramed below) = isFramed below) :
    Standing w n below link.stock st :=
  ⟨h.bare, h.ordered.2, h.framed.trans framed⟩

/-- What is left of the task goes with it. -/
theorem leaveBare (h : Standing w n (⟨⟨steps, []⟩, .task visit holds poller⟩ :: below) 0 st) :
    Standing w n below (Stock.ofCell holds + poller.stock) ((onSite visit.leave).run st).2 := by
  refine h.leave.2.le ?_ fun id => ?_
  · apply le_of_le_of_eq (Multiset.le_add_left _ (visit.leave st.site).1.stock)
    simp only [Level.stock, Body.stock_bare]
    abel
  · simp [Level.stock]

theorem leaveFrame {frame : Option Bindings}
    (h : Standing w n (⟨⟨steps, []⟩, .framed label subject frame⟩ :: below) 0 st) :
    Standing w n below (Stock.ofCell subject) ((leaveFrame frame).run st).2 := by
  refine ⟨h.bare.act (fun id => ?_) fun y _ here => ?_, h.ordered.2, h.ordered.1.2⟩
  · simp [Link.stock, Stock.holds_add]
  · have there : Reached w st.site
        (Stock.ofFrame frame + (Stock.ofCell subject + stackStock below + y)) :=
      here.congr (by simp only [Link.stock]; abel)
    exact (there.exchange.le (Multiset.le_add_left _ _)).congr (add_comm _ _)

/-- The unit goes back to its own thread. The thread where it has been is there for others. -/
theorem backTo_of_host (h : Backed w n (host.stock + x) st) :
    Backed w n ({.thread st.site.thread} + x) ((backTo host).run st).2 := by
  refine h.act (fun id => ?_) fun y _ here => ?_
  · simp only [Host.stock, Stock.holds_add, holds_ofFrame]
    rfl
  · have there : Reached w st.site ({.thread host.thread} + (Stock.ofFrame host.frame + (x + y))) :=
      here.congr (by simp only [Host.stock]; abel)
    apply there.moveTo.le
    simp only [Site.stock, ← Multiset.singleton_add]
    apply le_of_le_of_eq (Multiset.le_add_left _ (Stock.ofFrame st.site.frame))
    abel

theorem backTo (h : Standing w n (⟨⟨steps, []⟩, .thread subject host⟩ :: below) 0 st) :
    Standing w n below (Stock.ofCell subject) ((backTo host).run st).2 := by
  have back := backTo_of_host (h.bare.congr (add_assoc _ _ _))
  refine ⟨back.le (Multiset.le_add_left _ _) fun id => ?_, h.ordered.2, h.ordered.1.2⟩
  simp only [Stock.holds_add, holds_thread, Nat.zero_add]

/-- A worker keeps its thread. -/
theorem park (h : Standing w n (⟨⟨steps, []⟩, .worker subject name host⟩ :: below) 0 st) :
    Standing w n below (Stock.ofCell subject) ((park name host).run st).2 := by
  have back := backTo_of_host (h.bare.congr (add_assoc _ _ _))
  have parts := total_erase (fun t => {.thread t}) st.workers name
  have parked : Backed w n (st.workers[name]?.elim 0 (fun t => {.thread t}) +
      (Stock.ofCell subject + stackStock below)) ((Scenario.park name host).run st).2 := by
    refine back.move rfl rfl rfl ?_ back.tasks back.cells
    change State.stock { st with workers := st.workers.insert name st.site.thread } + _ =
      State.stock st + _
    simp only [State.stock, total_insert, parts]
    abel
  refine ⟨parked.le (Multiset.le_add_left _ _) fun id => ?_, h.ordered.2, h.ordered.1.2⟩
  cases st.workers[name]? with
  | none => rw [Option.elim_none, Multiset.zero_add]
  | some t => simp only [Option.elim_some, Stock.holds_add, holds_thread, Nat.zero_add]

end

theorem close {steps : List Step} {link : Link}
    (h : Standing w n (⟨⟨steps, []⟩, link⟩ :: below) 0 st) (same : st.stack = below) :
    Steady w n 0 (link.close.run st).2 := by
  subst same
  cases link with
  | top =>
    have last : st.stack = [] := h.ordered.1
    exact h.pop (congrArg isFramed last).symm
  | block => exact (h.pop rfl).spendAll (Trades.log (closing "block") none)
  | task visit holds poller =>
    have left : Steady w n (Stock.ofCell holds + poller.stock) ((onSite visit.leave).run st).2 :=
      h.leaveBare
    have ended := left.spend (Trades.letGo holds)
    obtain ⟨nonempty, polled⟩ := h.ordered.1.task
    cases poller with
    | once subject name =>
      have told := ended.spendAll (Trades.endStep subject "poll" (.text "ready"))
      exact told
    | untilReady subject name =>
      have told := ended.spendAll (Trades.endStep subject "run" (.text "ready"))
      exact told
    | await =>
      have told := ended.spendAll (Trades.log (closing "await") none)
      exact told
    | round state =>
      have still := (left.settled State.names_none (Trades.letGo holds)).stack
      have told := nextTurn (state.record none) ended polled fun empty =>
        nonempty (still.symm.trans empty)
      exact told
  | guarded label subject g =>
    have ended := ((h.pop rfl).settle.spend (Trades.dropGuard g)).spendAll
      (Trades.endStep subject label .nothing)
    exact ended
  | caught subject =>
    have ended := (h.pop rfl).settle.spendAll (Trades.endStep subject "catch" .nothing)
    exact ended
  | thread subject host =>
    have ended := h.backTo.settle.spendAll (Trades.endStep subject "thread" .nothing)
    exact ended
  | worker subject name host =>
    have ended := h.park.settle.spendAll (Trades.endStep subject "on" .nothing)
    exact ended
  | framed label subject host =>
    have ended := h.leaveFrame.settle.spendAll (Trades.endStep subject label .nothing)
    exact ended

theorem unwind (message : String) (h : Standing w n stack 0 st) (nonempty : stack ≠ []) :
    Steady w n 0 ((unwind message stack).run st).2 := by
  induction stack generalizing st with
  | nil => exact absurd rfl nonempty
  | cons layer below ih =>
    obtain ⟨body, link⟩ := layer
    have bare := h.dropBody
    cases link with
    | top =>
      have last : below = [] := h.ordered.1
      subst last
      have ended := (bare.pop rfl).settle.spendAll (Trades.log "uncaught" (some (.text message)))
      exact ended
    | block => exact ih (bare.pop rfl) h.ordered.1
    | task visit holds poller =>
      have left := bare.leaveBare.trade (Trades.letGo holds)
      obtain ⟨polls, polled⟩ := h.ordered.1.task
      cases poller with
      | once subject name | untilReady subject name =>
        exact ih ((left.congr (add_comm _ _)).trade (Trades.letGo subject)) polls
      | await => exact ih left polls
      | round state =>
        have told := nextTurn (state.record (some message))
          (left.settle.congr (Multiset.zero_add _)) polled polls
        exact told
    | guarded label subject g =>
      have dropped := (bare.pop rfl).trade (Trades.dropGuard g)
      have gone := (dropped.congr (add_comm _ _)).trade (Trades.letGo subject)
      exact ih gone h.ordered.1
    | caught subject =>
      have ended := (bare.pop rfl).settle.spendAll (Trades.endStep subject "catch" (.text message))
      exact ended
    | thread subject host =>
      have ended := bare.backTo.settle.spendAll (Trades.endStep subject "thread" (.text message))
      exact ended
    | worker subject name host =>
      have ended := bare.park.settle.spendAll (Trades.endStep subject "on" (.text message))
      exact ended
    | framed label subject host =>
      have gone := (bare.leaveFrame.congr (add_zero _).symm).trade (Trades.letGo subject)
      exact ih gone h.ordered.1.1

end Standing
end Ambient.Scenario
