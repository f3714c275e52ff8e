import Ambient.Proofs.Holdings

namespace Ambient.Scenario

namespace Trades

variable {subject : Subject}

theorem log {x : Stock} (label : String) (report : Option Report) :
    Trades subject x (log label report) fun _ => x :=
  quiet fun _ => ⟨_, _, _, _, _, rfl⟩

theorem logAt {x : Stock} (subject' : Subject) (label : String) (report : Report) :
    Trades subject x (logAt subject' label report) fun _ => x :=
  quiet fun _ => ⟨_, _, _, _, _, rfl⟩

/-- While a task with a frame is cleared up in that frame, the place of the host is kept. -/
theorem inShell (shell : Shell) {x : Stock} {m : Play Unit} (h : Trades subject x m fun _ => 0) :
    Trades subject (shell.stock + x)
      (do
        let host ← ask (·.frame)
        changeSite shell.reveal
        m
        changeSite (shell.conceal host)) fun _ => 0 := by
  intro w n z st names backed
  let host := st.site.frame
  have shown : Backed w n (x + (Reached.hostStock shell host + z))
      { st with site := shell.reveal st.site } := by
    refine backed.act (fun id => ?_) fun y _ here => ?_
    · simp [Stock.holds_add]
    · have there : Reached w st.site (shell.stock + (x + (y + z))) := here.congr (by abel)
      exact there.reveal.congr (by abel)
  have named : State.Names { st with site := shell.reveal st.site } subject := names
  obtain ⟨cleared, settled⟩ := h named shown
  rw [Multiset.zero_add] at cleared
  have back := cleared.act (y := z) (fun id => by simp [Stock.holds_add]) fun y _ here =>
    (here.congr (add_left_comm _ _ _)).conceal
  refine ⟨back.congr (Multiset.zero_add z).symm, settled.stack, ?_, settled.cells⟩
  cases shell with
  | framed b => rfl
  | carried q c => exact settled.framed

theorem cancelLevels (levels : List Level) :
    Trades subject (levels.map Level.stock).sum (cancelLevels levels) fun _ => 0 := by
  induction levels with
  | nil => exact pure (fun _ => 0) ()
  | cons level inner ih =>
    rw [List.map_cons, List.sum_cons, add_comm]
    cases level with
    | block body =>
      apply (ih.frame body.stock).bind
      intro _
      rw [Multiset.zero_add]
      exact dropGuards body.guards
    | task shell holds body =>
      have cleared : Trades subject ((inner.map Level.stock).sum + body.stock)
          (do Scenario.cancelLevels inner; Scenario.dropGuards body.guards) fun _ => 0 := by
        apply (ih.frame body.stock).bind
        intro _
        rw [Multiset.zero_add]
        exact dropGuards body.guards
      have closed := (cleared.inShell shell).frame (Stock.ofCell holds)
      have all := closed.bind (f := fun _ => Scenario.letGo holds) fun _ =>
        (letGo holds).congr (Multiset.zero_add _).symm fun _ => rfl
      refine all.congr ?_ fun _ => rfl
      simp only [Level.stock]
      abel

theorem cancel (t : Task) : Trades subject (taskStock t) (cancel t) fun _ => 0 := by
  have same : (t.reverse.map Level.stock).sum = taskStock t := by
    rw [taskStock, List.map_reverse, List.sum_reverse]
  exact same ▸ cancelLevels t.reverse

/-- What is put into a register takes the place of what has been there, which is let go. -/
theorem replace {α : Type} {f : α → Stock} {letGo : α → Play Unit} {old : Option α} {m : Play Unit}
    {w : Commons} {n : Nat} {z : Stock} {st put : State} (names : st.Names subject)
    (h : ∀ a, Trades subject (f a) (letGo a) fun _ => 0)
    (exchanged : Backed w n (old.elim 0 f + z) put)
    (settled : st.Settled put) (run : m.run st = (old.elim (Pure.pure ()) letGo).run put) :
    Backed w n (0 + z) (m.run st).2 ∧ st.Settled (m.run st).2 := by
  rw [run]
  cases old with
  | none => exact ⟨exchanged, settled⟩
  | some a =>
    obtain ⟨cleared, settled'⟩ := h a (settled.names names) exchanged
    exact ⟨cleared, settled.trans settled'⟩

theorem putTask (name : String) {t : Task} (sound : t.Sound) :
    Trades subject (taskStock t) (putTask name t) fun _ => 0 := by
  intro w n z st names backed
  have exchanged : Backed w n ((st.tasks[name]?).elim 0 taskStock + z)
      { st with tasks := st.tasks.insert name t } := by
    refine backed.move rfl rfl rfl ?_ ?_ backed.cells
    · have parts := total_erase taskStock st.tasks name
      simp only [State.stock, total_insert, parts]
      abel
    · intro other t' found
      simp only [Std.TreeMap.getElem?_insert] at found
      split at found
      next =>
        cases found
        exact sound
      next => exact backed.tasks found
  apply replace names cancel exchanged ⟨rfl, rfl, rfl⟩
  cases old : st.tasks[name]? <;> simp [Scenario.putTask, old]

theorem putBound (name : String) (b : Bound (List Step)) :
    Trades subject (boundStock b) (putBound name b) fun _ => 0 := by
  intro w n z st names backed
  have exchanged : Backed w n ((st.bound[name]?).elim 0 boundStock + z)
      { st with bound := st.bound.insert name b } := by
    refine backed.move rfl rfl rfl ?_ backed.tasks backed.cells
    have parts := total_erase boundStock st.bound name
    simp only [State.stock, total_insert, parts]
    abel
  apply replace names (fun b : Bound (List Step) => release b.cell) exchanged ⟨rfl, rfl, rfl⟩
  cases old : st.bound[name]? <;> simp [Scenario.putBound, old]

theorem putGuard (name : String) (g : Guard) :
    Trades subject (kept g) (putGuard name g) fun _ => 0 := by
  intro w n z st names backed
  have exchanged : Backed w n ((st.guards[name]?).elim 0 kept + z)
      { st with guards := st.guards.insert name g } := by
    refine backed.move rfl rfl rfl ?_ backed.tasks backed.cells
    have parts := total_erase kept st.guards name
    simp only [State.stock, total_insert, parts]
    abel
  apply replace names dropGuard exchanged ⟨rfl, rfl, rfl⟩
  cases old : st.guards[name]? <;> simp [Scenario.putGuard, old]

theorem beginStep (subject : Subject) (label : String) :
    Trades subject 0 (beginStep subject label) fun _ => Stock.ofCell subject := by
  apply bind (log label _)
  intro _
  cases subject with
  | none => exact pure (fun _ => 0) ()
  | some r => exact hold r

theorem endStep (subject' : Subject) (label : String) (report : Report) :
    Trades subject (Stock.ofCell subject') (endStep subject' label report) fun _ => 0 :=
  bind (logAt subject' _ report) fun _ => letGo subject'

end Trades

namespace Backed

variable {w : Commons} {n : Nat} {x : Stock} {st : State} {r : Cell}

theorem takeTask (h : Backed w n x st) (name : String) :
    Backed w n ((st.tasks[name]?).elim 0 taskStock + x)
      { st with tasks := st.tasks.erase name } := by
  refine h.move rfl rfl rfl ?_ (fun {other t} found => ?_) h.cells
  · have parts := total_erase taskStock st.tasks name
    simp only [State.stock, parts]
    abel
  · simp only [Std.TreeMap.getElem?_erase] at found
    split at found
    next => cases found
    next => exact h.tasks found

theorem takeBound (h : Backed w n x st) (name : String) :
    Backed w n ((st.bound[name]?).elim 0 boundStock + x)
      { st with bound := st.bound.erase name } := by
  refine h.move rfl rfl rfl ?_ h.tasks h.cells
  have parts := total_erase boundStock st.bound name
  simp only [State.stock, parts]
  abel

theorem takeToken (h : Backed w n x st) (name : String) :
    Backed w n ((st.tokens[name]?).elim 0 (fun k => {.token k}) + x)
      { st with tokens := st.tokens.erase name } := by
  refine h.move rfl rfl rfl ?_ h.tasks h.cells
  have parts := total_erase (fun k => {.token k}) st.tokens name
  simp only [State.stock, parts]
  abel

theorem thread (h : Backed w n x st) : Backed w n ({.thread .fresh} + x) st := by
  refine h.act (fun id => ?_) fun y le here => here.thread.congr (add_left_comm _ _ _)
  rw [Stock.holds_add, holds_thread, Nat.zero_add]

/-- A worker that has not been at work is a thread that has not been at work. -/
theorem takeWorker (h : Backed w n x st) (name : String) :
    Backed w n ({.thread (st.workers.getD name .fresh)} + x)
      { st with workers := st.workers.erase name } := by
  rw [Std.TreeMap.getD_eq_getD_getElem?]
  have parts := total_erase (fun t => {.thread t}) st.workers name
  cases found : st.workers[name]? with
  | some t =>
    rw [found, Option.elim_some] at parts
    refine h.move rfl rfl rfl ?_ h.tasks h.cells
    simp only [State.stock, parts, Option.getD_some]
    abel
  | none =>
    rw [found, Option.elim_none, Multiset.zero_add] at parts
    refine h.thread.move rfl rfl rfl ?_ h.tasks h.cells
    simp only [State.stock, parts, Option.getD_none]

/-- One of the copies of a frame is used up where the frame is entered. -/
theorem copy (h : Backed w (n + 1) x st) {name : String} {b : Bindings}
    (found : st.frames[name]? = some b) : Backed w n ({.frame b} + x) st := by
  have parts : st.copies = {.frame b} + total (fun b => {.frame b}) (st.frames.erase name) :=
    total_of_some found
  refine ⟨h.reached.le ?_, fun id => ?_, h.tasks, h.cells⟩
  · have more : (n + 1) • st.copies + (st.stock + x) =
        n • st.copies + (st.stock + ({.frame b} + x)) +
          total (fun b => {.frame b}) (st.frames.erase name) := by
      rw [succ_nsmul]
      nth_rewrite 2 [parts]
      abel
    rw [more]
    exact Multiset.le_add_right _ _
  · rw [h.counted, Stock.holds_add, Stock.holds_add, Stock.holds_add]
    exact congrArg _ (Nat.zero_add _).symm

/-- A frame that can be entered is forked off beforehand, as often as it will be entered. -/
theorem putFrame
    (backed : Backed w n x st) (names : st.Names (some r)) {c : Option Context} {b : Bindings}
    (forked : r.fork c st.site = some b) (name : String) :
    Backed w n x { st with frames := st.frames.insert name b } := by
  have more (m : Nat) : Reached w st.site
      (m • {.frame b} + (n • st.copies + (st.stock + x))) := by
    induction m with
    | zero => exact backed.reached.congr (by rw [zero_nsmul, Multiset.zero_add])
    | succ m ih =>
      have inside : Item.cell r ∈ m • {.frame b} + (n • st.copies + (st.stock + x)) := by
        simp [names.cell_mem]
      exact (ih.fork inside forked).congr (by rw [succ_nsmul]; abel)
  let others := total (fun b => {.frame b}) (st.frames.erase name)
  have parts : st.copies = st.frames[name]?.elim 0 (fun b => {.frame b}) + others :=
    total_erase _ st.frames name
  have grown : State.copies { st with frames := st.frames.insert name b } = {.frame b} + others :=
    total_insert _ st.frames name b
  have less : n • others ≤ n • st.copies := by
    rw [parts, nsmul_add]
    exact Multiset.le_add_left _ _
  refine ⟨(more n).le ?_, backed.counted, backed.tasks, backed.cells⟩
  rw [grown, nsmul_add, add_assoc]
  exact add_le_add_right (add_le_add_left less _) _

theorem fewer (h : Backed w (n + 1) x st) : Backed w n x st := by
  refine ⟨h.reached.le ?_, h.counted, h.tasks, h.cells⟩
  rw [succ_nsmul, add_assoc]
  exact add_le_add_right (Multiset.le_add_left _ _) _

/-- What a cell attaches is in hand until it is detached. -/
theorem attach (h : Backed w n x st) (hr : .cell r ∈ st.stock + x) (c : Context) :
    Backed w n ({.token (r.attach c st.site).1} + x)
      { st with site := (r.attach c st.site).2 } := by
  refine h.act (fun id => ?_) fun y le here => ?_
  · rw [Stock.holds_add, holds_token, Nat.zero_add]
  · have inside : Item.cell r ∈ y + x := Multiset.mem_of_le (add_le_add_left le x) hr
    exact (here.attach inside c).congr (add_left_comm _ _ _)

theorem fork (h : Backed w n x st) (hr : .cell r ∈ st.stock + x) {c : Option Context} {b : Bindings}
    (forked : r.fork c st.site = some b) : Backed w n ({.frame b} + x) st := by
  refine h.act (fun id => ?_) fun y le here => ?_
  · rw [Stock.holds_add, holds_frame, Nat.zero_add]
  · have inside : Item.cell r ∈ y + x := Multiset.mem_of_le (add_le_add_left le x) hr
    exact (here.fork inside forked).congr (add_left_comm _ _ _)

/-- The unit leaves its place for another thread. -/
theorem moveTo {thread : Thread} (h : Backed w n ({.thread thread} + x) st) :
    Backed w n (Host.stock ⟨st.site.thread, st.site.frame⟩ + x) ((moveTo thread).run st).2 := by
  refine h.act (fun id => ?_) fun y _ here => ?_
  · simp only [Host.stock, Stock.holds_add, holds_thread, holds_ofFrame, Nat.zero_add]
  · have there : Reached w st.site ({.thread thread} + (Stock.ofFrame none + (x + y))) := by
      apply here.congr
      rw [Stock.ofFrame, Multiset.zero_add]
      abel
    apply there.moveTo.congr
    simp only [Host.stock, Site.stock, ← Multiset.singleton_add]
    abel

theorem enterFrame {b : Bindings} (h : Backed w n ({.frame b} + x) st) :
    Backed w n (Stock.ofFrame st.site.frame + x)
      ((changeSite fun s => { s with frame := some b }).run st).2 := by
  refine h.act (fun id => ?_) fun y _ here => ?_
  · rw [Stock.holds_add, Stock.holds_add, holds_ofFrame, holds_frame]
  · have there : Reached w st.site (Stock.ofFrame (some b) + (y + x)) :=
      here.congr (add_left_comm _ _ _)
    exact there.exchange.congr (add_left_comm _ _ _)

end Backed

end Ambient.Scenario
