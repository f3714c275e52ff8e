import Mathlib.Algebra.BigOperators.Group.Multiset.Basic
import Mathlib.Tactic.Abel
import Ambient.Proofs.Reach
import Ambient.Scenario.Play

namespace Ambient

namespace Item

def isCell (id : Nat) : Item → Bool
  | .cell r => r.id == id
  | _ => false

end Item

namespace Stock

/-- How often something keeps the cell of a number in use. -/
def holds (x : Stock) (id : Nat) : Nat := x.countP (·.isCell id)

def ofCell : Option Cell → Stock
  | none => 0
  | some r => {.cell r}

@[simp] theorem holds_add (x y : Stock) (id : Nat) : (x + y).holds id = x.holds id + y.holds id :=
  Multiset.countP_add _ x y

end Stock

namespace Scenario

section

variable {α : Type} {f : α → Stock} {m m' : Std.TreeMap String α compare} {name : String} {a : α}

theorem nodup_toList (m : Std.TreeMap String α compare) : m.toList.Nodup := by
  refine List.Pairwise.imp ?_ (Std.TreeMap.distinct_keys_toList (t := m))
  rintro e _ differ rfl
  exact differ Std.ReflCmp.compare_self

theorem toList_perm (same : ∀ other : String, m[other]? = m'[other]?) :
    m.toList.Perm m'.toList := by
  rw [List.perm_ext_iff_of_nodup (nodup_toList m) (nodup_toList m')]
  rintro ⟨other, b⟩
  rw [Std.TreeMap.mem_toList_iff_getElem?_eq_some, Std.TreeMap.mem_toList_iff_getElem?_eq_some,
    same]

theorem toList_perm_cons (found : m[name]? = some a) :
    m.toList.Perm ((name, a) :: (m.erase name).toList) := by
  have new : (name, a) ∉ (m.erase name).toList := by
    rw [Std.TreeMap.mem_toList_iff_getElem?_eq_some, Std.TreeMap.getElem?_erase]
    simp
  rw [List.perm_ext_iff_of_nodup (nodup_toList m) (List.nodup_cons.2 ⟨new, nodup_toList _⟩)]
  rintro ⟨other, b⟩
  rw [List.mem_cons, Std.TreeMap.mem_toList_iff_getElem?_eq_some,
    Std.TreeMap.mem_toList_iff_getElem?_eq_some, Std.TreeMap.getElem?_erase]
  by_cases same : name = other
  · subst same
    simp [found, eq_comm]
  · have differ : ¬ compare name other = .eq := by simpa using same
    simp [same, Ne.symm same]

/-- What the entries of a register come to. -/
def total (f : α → Stock) (m : Std.TreeMap String α compare) : Stock :=
  (m.toList.map fun e => f e.2).sum

@[simp] theorem total_empty (f : α → Stock) : total f ∅ = 0 := rfl

theorem total_congr (same : ∀ other : String, m[other]? = m'[other]?) : total f m = total f m' :=
  ((toList_perm same).map _).sum_eq

theorem total_of_some (found : m[name]? = some a) : total f m = f a + total f (m.erase name) :=
  ((toList_perm_cons found).map _).sum_eq

theorem total_erase (f : α → Stock) (m : Std.TreeMap String α compare) (name : String) :
    total f m = m[name]?.elim 0 f + total f (m.erase name) := by
  cases found : m[name]? with
  | some a => exact total_of_some found
  | none =>
    refine (total_congr fun other => ?_).trans (Multiset.zero_add _).symm
    rw [Std.TreeMap.getElem?_erase]
    by_cases same : name = other
    · subst same
      simp [found]
    · simp [same]

theorem total_insert (f : α → Stock) (m : Std.TreeMap String α compare) (name : String) (a : α) :
    total f (m.insert name a) = f a + total f (m.erase name) := by
  have found : (m.insert name a)[name]? = some a := Std.TreeMap.getElem?_insert_self
  refine (total_of_some found).trans (congrArg (f a + ·) (total_congr fun other => ?_))
  simp only [Std.TreeMap.getElem?_erase, Std.TreeMap.getElem?_insert]
  split <;> rfl

end

/-- A guard that is kept keeps its cell in use, open or not. -/
def kept (g : Guard) : Stock := {.cell g.cell} + Stock.ofToken g.token

def guardStock (guards : List (String × Guard)) : Stock := (guards.map fun e => kept e.2).sum

def Body.stock (body : Body) : Stock := guardStock body.guards

def Level.stock : Level → Stock
  | .block body => body.stock
  | .task shell holds body => shell.stock + (Stock.ofCell holds + body.stock)

def taskStock (t : Task) : Stock := (t.map Level.stock).sum

def Host.stock (host : Host) : Stock := {.thread host.thread} + Stock.ofFrame host.frame

def Poller.stock : Poller → Stock
  | .once subject _ | .untilReady subject _ => Stock.ofCell subject
  | .await => 0
  | .round state => {.cell state.cell} + (state.waiting.map fun e => taskStock e.2).sum

def Link.stock : Link → Stock
  | .top | .block => 0
  | .task visit holds poller => visit.stock + (Stock.ofCell holds + poller.stock)
  | .guarded _ subject g => kept g + Stock.ofCell subject
  | .caught subject => Stock.ofCell subject
  | .thread subject host | .worker subject _ host => host.stock + Stock.ofCell subject
  | .framed _ subject host => Stock.ofFrame host + Stock.ofCell subject

def Layer.stock (layer : Layer) : Stock := layer.body.stock + layer.link.stock

def stackStock (stack : List Layer) : Stock := (stack.map Layer.stock).sum

def boundStock (b : Bound (List Step)) : Stock := {.cell b.cell}

/-- What is kept in the registers and with the workers that are not at work. -/
def State.stock (st : State) : Stock :=
  total (fun k => {.token k}) st.tokens + (total kept st.guards + (total taskStock st.tasks +
    (total boundStock st.bound + (total (fun t => {.thread t}) st.workers +
      total (fun n => {.cell n.cell}) st.cells))))

/-- The frames that can be entered, each as often as one likes. -/
def State.copies (st : State) : Stock := total (fun b => {.frame b}) st.frames

/-- A task without a frame keeps its cell in use. -/
def Level.Sound : Level → Prop
  | .task (.carried r _) holds _ => holds = some r
  | _ => True

/-- The outermost level of a task is the task itself. -/
structure Task.Sound (t : Task) : Prop where
  outermost : ∃ shell holds body, t.getLast? = some (.task shell holds body)
  levels : ∀ level ∈ t, level.Sound

/-- All that a scenario has before it is there in a process whose units do nothing else than make,
use and retire cells, with so many copies of the frames that can be entered, and the count of what
keeps a cell in use is right. -/
structure Backed (w : Commons) (n : Nat) (x : Stock) (st : State) : Prop where
  reached : Reached w st.site (n • st.copies + (st.stock + x))
  counted (id : Nat) : st.holders.getD id 0 = (st.stock + x).holds id
  tasks {name : String} {t : Task} : st.tasks[name]? = some t → t.Sound
  cells {name : String} {named : Named} :
    st.cells[name]? = some named → named.isDirect → named.cell.strategy = .taskLocal

/-- The cell that a step is about still has a name. -/
def State.Names (st : State) (subject : Subject) : Prop :=
  ∀ r, subject = some r →
    ∃ (name : String) (named : Named), st.cells[name]? = some named ∧ named.cell = r

/-- The same bodies are at work, the unit is in a frame just as before, and the names stand. -/
structure State.Settled (st st' : State) : Prop where
  stack : st'.stack = st.stack
  framed : st'.site.frame.isSome = st.site.frame.isSome
  cells : st'.cells = st.cells

namespace State

variable {st st' st'' : State} {subject : Subject} {r : Cell}

theorem names_none : st.Names none := by
  rintro r h
  cases h

theorem Names.cell_mem (h : st.Names (some r)) : .cell r ∈ st.stock := by
  obtain ⟨name, named, found, rfl⟩ := h r rfl
  have inside : Item.cell named.cell ∈ total (fun n => {.cell n.cell}) st.cells := by
    rw [total_of_some found]
    simp
  simp [State.stock, inside]

theorem Settled.names (h : st.Settled st') (names : st.Names subject) : st'.Names subject := by
  rw [Names, h.cells]
  exact names

theorem Settled.rfl : st.Settled st := ⟨Eq.refl _, Eq.refl _, Eq.refl _⟩

theorem Settled.trans (h : st.Settled st') (h' : st'.Settled st'') : st.Settled st'' :=
  ⟨h'.stack.trans h.stack, h'.framed.trans h.framed, h'.cells.trans h.cells⟩

end State

section

@[simp] theorem holds_zero (id : Nat) : Stock.holds 0 id = 0 := rfl

@[simp] theorem holds_token (k : Token) (id : Nat) : Stock.holds {.token k} id = 0 := rfl

@[simp] theorem holds_frame (b : Bindings) (id : Nat) : Stock.holds {.frame b} id = 0 := rfl

@[simp] theorem holds_thread (t : Thread) (id : Nat) : Stock.holds {.thread t} id = 0 := rfl

@[simp] theorem holds_ofToken (k : Option Token) (id : Nat) : (Stock.ofToken k).holds id = 0 := by
  cases k with
  | none => rfl
  | some k => rfl

@[simp] theorem holds_ofFrame (b : Option Bindings) (id : Nat) :
    (Stock.ofFrame b).holds id = 0 := by
  cases b with
  | none => rfl
  | some b => rfl

@[simp] theorem holds_shell (shell : Shell) (id : Nat) : shell.stock.holds id = 0 := by
  cases shell with
  | framed b => rfl
  | carried q c => rfl

@[simp] theorem holds_visit (visit : Visit) (id : Nat) : visit.stock.holds id = 0 := by
  cases visit with
  | host frame => exact holds_ofFrame frame id
  | guarded g => exact holds_ofToken g.token id

@[simp] theorem holds_hostStock (shell : Shell) (host : Option Bindings) (id : Nat) :
    (Reached.hostStock shell host).holds id = 0 := by
  cases shell with
  | framed b => exact holds_ofFrame host id
  | carried q c => rfl

theorem holds_cell (r : Cell) (id : Nat) :
    Stock.holds {.cell r} id = if r.id = id then 1 else 0 := by
  rw [Stock.holds, ← Multiset.cons_zero, Multiset.countP_cons, Multiset.countP_zero, Nat.zero_add]
  simp [Item.isCell]

theorem holds_copies (st : State) (n id : Nat) : (n • st.copies).holds id = 0 := by
  have none_there (l : List (String × Bindings)) :
      Stock.holds (l.map fun e => {Item.frame e.2}).sum id = 0 := by
    induction l with
    | nil => rfl
    | cons e l ih =>
      rw [List.map_cons, List.sum_cons, Stock.holds_add, ih]
      rfl
  rw [Stock.holds, Multiset.countP_nsmul]
  exact mul_eq_zero_of_right n (none_there _)

theorem not_mem_of_holds_eq_zero {x : Stock} {r : Cell} (none_left : x.holds r.id = 0) :
    Item.cell r ∉ x := by
  intro hr
  have counts := (Multiset.countP_eq_zero.1 none_left) _ hr
  simp [Item.isCell] at counts

end

namespace Backed

variable {w : Commons} {n : Nat} {x y : Stock} {st st' : State} {r : Cell} {t : Site}

theorem act (h : Backed w n x st) (holds : ∀ id, y.holds id = x.holds id)
    (acts : ∀ z, st.stock ≤ z → Reached w st.site (z + x) → Reached w t (z + y)) :
    Backed w n y { st with site := t } := by
  obtain ⟨reached, counted, tasks, cells⟩ := h
  refine ⟨?_, fun id => ?_, tasks, cells⟩
  · rw [← add_assoc] at reached
    have there := acts _ (Multiset.le_add_left _ _) reached
    rw [add_assoc] at there
    exact there
  · rw [Stock.holds_add, holds, ← Stock.holds_add]
    exact counted id

theorem le (h : Backed w n x st) (le : y ≤ x) (holds : ∀ id, y.holds id = x.holds id) :
    Backed w n y st :=
  h.act holds fun _ _ here => here.le (add_le_add_right le _)

theorem congr (h : Backed w n x st) (same : x = y) : Backed w n y st := same ▸ h

/-- Something changes hands between the registers and whoever is at work. -/
theorem move (h : Backed w n x st) (site : st'.site = st.site) (holders : st'.holders = st.holders)
    (copies : st'.copies = st.copies) (stock : st'.stock + y = st.stock + x)
    (tasks : ∀ {name : String} {t : Task}, st'.tasks[name]? = some t → t.Sound)
    (cells : ∀ {name : String} {named : Named}, st'.cells[name]? = some named →
      named.isDirect → named.cell.strategy = .taskLocal) : Backed w n y st' := by
  refine ⟨?_, fun id => ?_, tasks, cells⟩
  · rw [site, copies, stock]
    exact h.reached
  · rw [holders, stock]
    exact h.counted id

theorem counted_hold (h : Backed w n x st) (r : Cell) (id : Nat) :
    (st.holders.insert r.id (st.holders.getD r.id 0 + 1)).getD id 0 =
      (st.stock + ({.cell r} + x)).holds id := by
  rw [Std.TreeMap.getD_insert, add_left_comm, Stock.holds_add, holds_cell, ← h.counted]
  by_cases same : r.id = id
  · simp [same, Nat.add_comm]
  · simp [same]

theorem hold (h : Backed w n x st) (hr : .cell r ∈ st.stock + x) :
    Backed w n ({.cell r} + x) ((hold r).run st).2 := by
  refine ⟨?_, h.counted_hold r, h.tasks, h.cells⟩
  have more : Reached w st.site (n • st.copies + (st.stock + ({.cell r} + x))) :=
    (h.reached.keep (Multiset.mem_add.2 (.inr hr))).congr (by abel)
  exact more

theorem release (h : Backed w n ({.cell r} + x) st) : Backed w n x ((release r).run st).2 := by
  obtain ⟨reached, counted, tasks, cells⟩ := h
  let left := st.holders.getD r.id 0 - 1
  have count (id : Nat) : st.holders.getD id 0 =
      (if r.id = id then 1 else 0) + (st.stock + x).holds id := by
    rw [counted, add_left_comm, Stock.holds_add, holds_cell]
  have counted' (id : Nat) : (st.holders.insert r.id left).getD id 0 = (st.stock + x).holds id := by
    rw [Std.TreeMap.getD_insert]
    by_cases same : r.id = id
    · subst same
      simp [left, count]
    · simp [same, count]
  have here : Reached w st.site ({.cell r} + (n • st.copies + (st.stock + x))) :=
    reached.congr (by abel)
  have run : ((Scenario.release r).run st).2 = if left = 0
      then { st with holders := st.holders.insert r.id left, site := r.retire st.site }
      else { st with holders := st.holders.insert r.id left } := by
    change (StateT.run (ite (left = 0) (changeSite r.retire) (pure ()) : Play Unit) _).2 = _
    split
    next => rfl
    next => rfl
  rw [run]
  split
  next zero =>
    refine ⟨here.retire (not_mem_of_holds_eq_zero ?_), counted', tasks, cells⟩
    have none_left := counted' r.id
    rw [Std.TreeMap.getD_insert_self, zero] at none_left
    rw [Stock.holds_add, holds_copies, ← none_left]
  next => exact ⟨here.le (Multiset.le_add_left _ _), counted', tasks, cells⟩

end Backed

/-- Takes over `x` and leaves `y`, whatever else there is, if the cell has a name. -/
def Trades {α : Type} (subject : Subject) (x : Stock) (m : Play α) (y : α → Stock) : Prop :=
  ∀ ⦃w n z st⦄, st.Names subject → Backed w n (x + z) st →
    Backed w n (y (m.run st).1 + z) (m.run st).2 ∧ st.Settled (m.run st).2

/-- Changes nothing that concerns what there is. -/
def Quiet {α : Type} (m : Play α) : Prop :=
  ∀ st, ∃ supply owners contexts snapshots log, (m.run st).2 =
    { st with supply := supply, owners := owners, contexts := contexts, snapshots := snapshots,
              log := log }

namespace Trades

variable {α β : Type} {x y : Stock} {m : Play α} {u v : α → Stock} {u' : β → Stock} {r : Cell}
variable {subject : Subject}

theorem bind_of {f : α → Play β} {P : α → Prop} (h : Trades subject x m u)
    (sure : ∀ st, P (m.run st).1) (h' : ∀ a, P a → Trades subject (u a) (f a) u') :
    Trades subject x (m >>= f) u' := by
  intro w n z st names backed
  obtain ⟨middle, settled⟩ := h names backed
  obtain ⟨last, settled'⟩ := h' _ (sure st) (settled.names names) middle
  exact ⟨last, settled.trans settled'⟩

theorem bind {f : α → Play β} (h : Trades subject x m u)
    (h' : ∀ a, Trades subject (u a) (f a) u') : Trades subject x (m >>= f) u' :=
  h.bind_of (P := fun _ => True) (fun _ => trivial) fun a _ => h' a

theorem pure (u : α → Stock) (a : α) : Trades subject (u a) (pure a) u :=
  fun _ _ _ _ _ backed => ⟨backed, .rfl⟩

theorem quiet (h : Quiet m) : Trades subject x m fun _ => x := by
  intro w n z st names backed
  obtain ⟨supply, owners, contexts, snapshots, log, same⟩ := h st
  rw [same]
  exact ⟨⟨backed.reached, backed.counted, backed.tasks, backed.cells⟩, rfl, rfl, rfl⟩

theorem frame (h : Trades subject x m u) (y : Stock) :
    Trades subject (x + y) m fun a => u a + y := by
  intro w n z st names backed
  rw [add_assoc] at backed ⊢
  exact h names backed

theorem congr (h : Trades subject x m u) (same : x = y) (same' : ∀ a, u a = v a) :
    Trades subject y m v := by
  obtain rfl := funext same'
  exact same ▸ h

theorem site {f : Site → Site} (holds : ∀ id, y.holds id = x.holds id)
    (framed : ∀ s, (f s).frame.isSome = s.frame.isSome)
    (acts : ∀ {w s z}, Reached w s (z + x) → Reached w (f s) (z + y)) :
    Trades subject x (changeSite f) fun _ => y := by
  intro w n z st names backed
  refine ⟨backed.act (fun id => ?_) fun z' _ here => ?_, rfl, framed st.site, rfl⟩
  · rw [Stock.holds_add, holds, ← Stock.holds_add]
  · have there := acts (here.congr (show z' + (x + z) = z' + z + x by abel))
    exact there.congr (by abel)

theorem hold (r : Cell) : Trades (some r) 0 (hold r) fun _ => {.cell r} := by
  intro w n z st names backed
  have held := backed.hold (Multiset.mem_add.2 (.inl names.cell_mem))
  rw [Multiset.zero_add] at held
  exact ⟨held, rfl, rfl, rfl⟩

theorem release (r : Cell) : Trades subject {.cell r} (release r) fun _ => 0 := by
  intro w n z st names backed
  refine ⟨backed.release.le (Multiset.zero_add z).le fun id => by rw [Multiset.zero_add], ?_⟩
  change st.Settled (StateT.run (ite _ (changeSite r.retire) (Pure.pure ()) : Play Unit) _).2
  split
  next => exact ⟨rfl, congrArg _ (r.frame_retire st.site), rfl⟩
  next => exact ⟨rfl, rfl, rfl⟩

theorem letGo (r : Option Cell) : Trades subject (Stock.ofCell r) (letGo r) fun _ => 0 := by
  cases r with
  | none => exact pure (fun _ => 0) ()
  | some r => exact release r

theorem dropGuard (g : Guard) : Trades subject (kept g) (dropGuard g) fun _ => 0 := by
  refine bind (u := fun _ => {.cell g.cell})
    (site (fun id => ?_) g.isSome_frame_finish fun {w s z} here => ?_) fun _ => release g.cell
  · rw [kept, Stock.holds_add, holds_ofToken, Nat.add_zero]
  · have open_ : Reached w s (Stock.ofToken g.token + (z + {.cell g.cell})) :=
      here.congr (by rw [kept]; abel)
    exact open_.finish (by simp)

theorem dropGuards (guards : List (String × Guard)) :
    Trades subject (guardStock guards) (dropGuards guards) fun _ => 0 := by
  induction guards with
  | nil => exact pure (fun _ => 0) ()
  | cons e guards ih =>
    apply ((dropGuard e.2).frame (guardStock guards)).bind
    intro _
    rw [Multiset.zero_add]
    exact ih

end Trades

end Scenario
end Ambient
