import Ambient.Scenario.Control
import Ambient.Scenario.Operation

namespace Ambient.Scenario

def noCell : Report := .text "no runtime"

def missing : Report := .text "missing"

/-- Whether a cell shows that it is task-local. -/
def Named.isDirect (named : Named) : Bool := named.make == .taskLocal

/-- A new task that has not begun. A direct task does not keep its cell in use. -/
def startTask (named : Named) (c : Option Context) (direct : Bool) (steps : List Step) :
    Play Task := do
  let r := named.cell
  let shell ← ask (r.shell c)
  if direct && named.isDirect then return [.task shell none ⟨steps, []⟩]
  hold r
  return [.task shell (some r) ⟨steps, []⟩]

def runBody (link : Link) (steps : List Step) : Play Unit := push ⟨⟨steps, []⟩, link⟩

def hostHere : Play Host := ask fun s => ⟨s.thread, s.frame⟩

def moveTo (thread : Thread) : Play Unit :=
  changeSite fun s => { s with thread, frame := none }

def takeWorker (name : String) : Play Thread :=
  modifyGet fun st => (st.workers.getD name .fresh, { st with workers := st.workers.erase name })

def runInside (named : Option Named) (scope : Scope) (steps : List Step) : Play Unit := do
  let subject := named.map (·.cell)
  match scope with
  | .activated c =>
    match subject with
    | none => log "with" (some noCell)
    | some r =>
      beginStep subject "with"
      let c ← source c
      let g ← onSite (Guard.activate r c)
      hold r
      runBody (.guarded "with" subject g) steps
  | .caught =>
    beginStep subject "catch"
    runBody (.caught subject) steps
  | .thread =>
    beginStep subject "thread"
    let host ← hostHere
    moveTo .fresh
    runBody (.thread subject host) steps
  | .worker name =>
    if isWorking name (← get).stack then log "on" (some (.text "busy"))
    else
      beginStep subject "on"
      let host ← hostHere
      moveTo (← takeWorker name)
      runBody (.worker subject name host) steps
  | .frame register =>
    match (← get).frames[register]? with
    | none => logAt subject "enter_sync" missing
    | some frame =>
      beginStep subject "enter_sync"
      let host ← ask (·.frame)
      changeSite fun s => { s with frame := some frame }
      runBody (.framed "enter_sync" subject host) steps
  | .scoped c =>
    match named with
    | none => log "sync_scope" (some noCell)
    | some named =>
      if named.isDirect then
        beginStep subject "sync_scope"
        let c ← source c
        let host ← ask (·.frame)
        changeSite fun s => { s with frame := named.cell.fork (some c) s }
        runBody (.framed "sync_scope" subject host) steps
      else logAt subject "sync_scope" (.text "no sync_scope")

def storeTask (named : Option Named) (label register : String) (c : Option Source) (direct : Bool)
    (steps : List Step) : Play Unit := do
  match named with
  | none => log label (some noCell)
  | some named =>
    let c ← match c with
      | none => pure none
      | some c => some <$> source c
    putTask register (← startTask named c direct steps)
    logAt (some named.cell) label .nothing

def store (named : Option Named) (how : Keeping) (steps : List Step) : Play Unit := do
  let subject := named.map (·.cell)
  match how with
  | .fork register direct => storeTask named "fork" register none direct steps
  | .scope c register direct => storeTask named "scope" register (some c) direct steps
  | .enter frame register =>
    match (← get).frames[frame]? with
    | none => logAt subject "enter" missing
    | some frame =>
      putTask register [.task (.framed frame) none ⟨steps, []⟩]
      logAt subject "enter" .nothing
  | .bound name =>
    match subject with
    | none => log "bind" (some noCell)
    | some r =>
      hold r
      putBound name (← ask (r.bind steps))
      logAt subject "bind" .nothing

def spawn (named : Option Named) (direct : Bool) (bodies : List (List Step)) : Play Unit := do
  match named with
  | none => log "spawn" (some noCell)
  | some named =>
    let r := named.cell
    if isInRound (← get).stack then logAt (some r) "spawn" (.text "busy")
    else
      beginStep (some r) "spawn"
      let tasks ← bodies.mapM (startTask named none direct)
      nextTurn ⟨r, 0, (List.range tasks.length).zip tasks, ∅⟩

def call (subject : Subject) (name : String) : Play Unit := do
  match ← takeBound name with
  | none => logAt subject "call" missing
  | some work =>
    beginStep subject "call"
    let g ← onSite (Guard.activate work.cell work.context)
    runBody (.guarded "call" subject g) work.work

def poll (subject : Subject) (label register : String) (poller : Poller) : Play Unit := do
  match ← takeTask register with
  | none => logAt subject label missing
  | some t =>
    beginStep subject label
    resume t poller

def dropTask (subject : Subject) (register : String) : Play Unit := do
  match ← takeTask register with
  | none => logAt subject "drop_task" (.flag false)
  | some t =>
    cancel t
    logAt subject "drop_task" (.flag true)

def inTaskOnly (label : String) (act : Play Unit) : Play Unit := do
  if isTaskBody (← get).stack then act else log label (some (.text "not async"))

def await (register : String) : Play Unit := do
  match ← takeTask register with
  | none => log "await" (some missing)
  | some t =>
    log "await" none
    resume t .await

def onCell (name label : String) (act : Cell → Play Report) : Play Unit := do
  match ← subjectOf name with
  | none => log label (some noCell)
  | some r => logAt (some r) label (← act r)

def perform : Step → Play Unit
  | .operate cell op => onCell cell op.label (operate · op)
  | .handle cell h => onCell cell h.label fun _ => handle h
  | .command c => do log c.label (← command c)
  | .inside cell scope steps => do runInside (← cell? cell) scope steps
  | .store cell how steps => do store (← cell? cell) how steps
  | .block steps => do
    log "block" none
    runBody .block steps
  | .spawn cell direct bodies => do spawn (← cell? cell) direct bodies
  | .call cell name => do call (← subjectOf cell) name
  | .poll cell register => do
    let subject ← subjectOf cell
    poll subject "poll" register (.once subject register)
  | .run cell register => do
    let subject ← subjectOf cell
    poll subject "run" register (.untilReady subject register)
  | .dropTask cell register => do dropTask (← subjectOf cell) register
  | .await register => inTaskOnly "await" (await register)
  | .pause => inTaskOnly "yield" do
    log "yield" none
    suspend [] (← get).stack
  | .leave => do
    log "return" none
    modify fun st => match st.stack with
      | ⟨body, link⟩ :: below => { st with stack := ⟨{ body with steps := [] }, link⟩ :: below }
      | [] => st
  | .fail message => do
    log "panic" (some .nothing)
    unwind message (← get).stack

/-- Takes the next step of the innermost body, or ends it. -/
def advance : Play Unit := do
  match (← get).stack with
  | [] => return
  | ⟨⟨step :: steps, guards⟩, link⟩ :: below =>
    setStack (⟨⟨steps, guards⟩, link⟩ :: below)
    perform step
  | ⟨⟨[], guards⟩, link⟩ :: below =>
    dropGuards guards
    setStack below
    link.close

def advanceTimes : Nat → Play Unit
  | 0 => return
  | n + 1 => do
    advance
    advanceTimes n

def makeCells : List (String × Make) → Play Unit
  | [] => return
  | (name, make) :: cells => do
    makeCell name make
    makeCells cells

/-- Plays a scenario in a fresh process with some cells. No step is taken twice and no body ends
twice, so there are no more advances than steps and bodies. -/
def play (cells : List (String × Make)) (steps : List Step) : List Entry :=
  let whole : Play Unit := do
    makeCells cells
    runBody .top steps
    advanceTimes (1 + sizeOfBody steps)
  (whole.run .start).2.log.toList

end Ambient.Scenario
