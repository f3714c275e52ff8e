import Ambient.Scenario.Entry
import Ambient.Scenario.Step
import Ambient.Shell

namespace Ambient.Scenario

structure Body where
  steps : List Step
  guards : List (String × Guard)

/-- A level of a suspended task. The outermost level is the task's own body; further in come the
blocks and the awaited tasks in which it was suspended. A task may keep a cell in use. -/
inductive Level where
  | block (body : Body)
  | task (shell : Shell) (holds : Option Cell) (body : Body)

abbrev Task := List Level

structure Round where
  cell : Cell
  turn : Nat
  waiting : List (Nat × Task)
  outcomes : Std.TreeMap Nat (Option String) compare

/-- The cell that a step is about, if there is one under the name that the step gives. The name is
looked up once, when the step begins; a step with a body keeps the cell in use to its end. -/
abbrev Subject := Option Cell

inductive Poller where
  | once (subject : Subject) (register : String)
  | untilReady (subject : Subject) (register : String)
  | await
  | round (round : Round)

/-- The place that a unit gives up while a body runs elsewhere. -/
structure Host where
  thread : Thread
  frame : Option Bindings

inductive Link where
  | top
  | block
  | task (visit : Visit) (holds : Option Cell) (poller : Poller)
  | guarded (label : String) (subject : Subject) (g : Guard)
  | caught (subject : Subject)
  | thread (subject : Subject) (host : Host)
  | worker (subject : Subject) (name : String) (host : Host)
  | framed (label : String) (subject : Subject) (host : Option Bindings)

structure Layer where
  body : Body
  link : Link

structure Named where
  cell : Cell
  make : Make

structure State where
  site : Site
  supply : Supply
  /-- The storage of the named threads that are not at work. -/
  workers : Std.TreeMap String Thread compare
  cells : Std.TreeMap String Named compare
  owners : Std.TreeMap Nat String compare
  /-- How many names, guards, tasks and the like keep each cell in use. -/
  holders : Std.TreeMap Nat Nat compare
  contexts : Std.TreeMap String Context compare
  tokens : Std.TreeMap String Token compare
  snapshots : Std.TreeMap String (Option Context) compare
  frames : Std.TreeMap String Bindings compare
  guards : Std.TreeMap String Guard compare
  tasks : Std.TreeMap String Task compare
  bound : Std.TreeMap String (Bound (List Step)) compare
  stack : List Layer
  log : Array Entry

def State.start : State where
  site := .start
  supply := .start
  workers := ∅
  cells := ∅
  owners := ∅
  holders := ∅
  contexts := ∅
  tokens := ∅
  snapshots := ∅
  frames := ∅
  guards := ∅
  tasks := ∅
  bound := ∅
  stack := []
  log := #[]

abbrev Play := StateM State

def onSite {α : Type} (f : Site → α × Site) : Play α :=
  modifyGet fun st => let (a, site) := f st.site; (a, { st with site })

def changeSite (f : Site → Site) : Play Unit := modify fun st => { st with site := f st.site }

def ask {α : Type} (f : Site → α) : Play α := return f (← get).site

def supply {α : Type} (f : StateM Supply α) : Play α :=
  modifyGet fun st => let (a, supply) := f st.supply; (a, { st with supply })

def cell? (name : String) : Play (Option Named) := return (← get).cells[name]?

def subjectOf (name : String) : Play Subject := return (← get).cells[name]?.map (·.cell)

def log (label : String) (report : Option Report) : Play Unit :=
  modify fun st => { st with log := st.log.push ⟨label, report, none⟩ }

def logAt (subject : Subject) (label : String) (report : Report) : Play Unit := do
  let st ← get
  let binding := subject.map (·.binding st.site)
  set { st with log := st.log.push ⟨label, some report, binding⟩ }

def source : Source → Play Context
  | .entries pairs => supply ((∅ : Context).withValues pairs)
  | .register name => return (← get).contexts.getD name ∅

def hold (r : Cell) : Play Unit :=
  modify fun st => { st with holders := st.holders.insert r.id (st.holders.getD r.id 0 + 1) }

/-- Something less keeps a cell in use; with the last of them it is retired, right here. -/
def release (r : Cell) : Play Unit := do
  let left := (← get).holders.getD r.id 0 - 1
  modify fun st => { st with holders := st.holders.insert r.id left }
  if left = 0 then changeSite r.retire

def beginStep (subject : Subject) (label : String) : Play Unit := do
  log label (some .nothing)
  if let some r := subject then hold r

def letGo (r : Option Cell) : Play Unit := do
  if let some r := r then release r

def endStep (subject : Subject) (label : String) (report : Report) : Play Unit := do
  logAt subject (closing label) report
  letGo subject

def makeCell (name : String) (make : Make) : Play Unit := do
  let strategy := if make = .threadLocal then Strategy.threadLocal else .taskLocal
  let r ← onSite (Cell.make strategy)
  hold r
  let old ← cell? name
  modify fun st =>
    { st with cells := st.cells.insert name ⟨r, make⟩, owners := st.owners.insert r.id name }
  if let some old := old then release old.cell

def isTaskBody : List Layer → Bool
  | ⟨_, .task ..⟩ :: _ => true
  | ⟨_, .block⟩ :: below => isTaskBody below
  | _ => false

def isWorking (worker : String) (stack : List Layer) : Bool :=
  stack.any fun layer => match layer.link with
    | .worker _ name _ => name == worker
    | _ => false

/-- Whether the thread at work is in the middle of a round of tasks. -/
def isInRound : List Layer → Bool
  | ⟨_, .task _ _ (.round _)⟩ :: _ => true
  | ⟨_, .thread ..⟩ :: _ => false
  | ⟨_, .worker ..⟩ :: _ => false
  | _ :: below => isInRound below
  | [] => false

def push (layer : Layer) : Play Unit := modify fun st => { st with stack := layer :: st.stack }

def setStack (stack : List Layer) : Play Unit := modify fun st => { st with stack }

def changeGuards (f : List (String × Guard) → List (String × Guard)) : Play Unit :=
  modify fun st => match st.stack with
    | ⟨body, link⟩ :: below =>
      { st with stack := ⟨{ body with guards := f body.guards }, link⟩ :: below }
    | [] => st

end Ambient.Scenario
