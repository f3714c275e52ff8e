import Ambient.Scenario.Release

namespace Ambient.Scenario

/-- Sets a task going again, given by its levels from the outermost in. -/
def resumeLevels : List Level → Poller → Play Unit
  | [], _ => return
  | .block body :: inner, poller => do
    push ⟨body, .block⟩
    resumeLevels inner poller
  | .task shell holds body :: inner, poller => do
    let visit ← onSite shell.enter
    push ⟨body, .task visit holds poller⟩
    resumeLevels inner .await

def resume (t : Task) (poller : Poller) : Play Unit := resumeLevels t.reverse poller

/-- Gives the turn to the next of the waiting tasks. After the last the round is over. -/
def nextTurn (round : Round) : Play Unit := do
  match round.waiting with
  | (turn, t) :: waiting => resume t (.round { round with turn, waiting })
  | [] =>
    endStep (some round.cell) "spawn" (.outcomes (round.outcomes.toList.map (·.2)))

/-- Takes the suspended task off the stack, level by level, and tells its poller. -/
def suspend (inner : Task) : List Layer → Play Unit
  | ⟨body, .block⟩ :: below => suspend (inner ++ [.block body]) below
  | ⟨body, .task visit holds poller⟩ :: below => do
    let shell ← onSite visit.leave
    let t := inner ++ [.task shell holds body]
    match poller with
    | .await => suspend t below
    | .once subject name =>
      setStack below
      putTask name t
      endStep subject "poll" (.text "pending")
    | .untilReady subject name =>
      setStack below
      resume t (.untilReady subject name)
    | .round round =>
      setStack below
      nextTurn { round with waiting := round.waiting ++ [(round.turn, t)] }
  | _ => return

def leaveTask (visit : Visit) (holds : Option Cell) : Play Unit := do
  let _ ← onSite visit.leave
  letGo holds

def Round.record (round : Round) (failure : Option String) : Round :=
  { round with outcomes := round.outcomes.insert round.turn failure }

def backTo (host : Host) : Play Unit :=
  changeSite fun s => { s with thread := host.thread, frame := host.frame }

def park (name : String) (host : Host) : Play Unit := do
  let thread ← ask (·.thread)
  modify fun st => { st with workers := st.workers.insert name thread }
  backTo host

def leaveFrame (host : Option Bindings) : Play Unit := changeSite fun s => { s with frame := host }

def Link.close : Link → Play Unit
  | .top => return
  | .block => log (closing "block") none
  | .task visit holds poller => do
    leaveTask visit holds
    match poller with
    | .once subject _ => endStep subject "poll" (.text "ready")
    | .untilReady subject _ => endStep subject "run" (.text "ready")
    | .await => log (closing "await") none
    | .round round => nextTurn (round.record none)
  | .guarded label subject g => do
    dropGuard g
    endStep subject label .nothing
  | .caught subject => endStep subject "catch" .nothing
  | .thread subject host => do
    backTo host
    endStep subject "thread" .nothing
  | .worker subject name host => do
    park name host
    endStep subject "on" .nothing
  | .framed label subject host => do
    leaveFrame host
    endStep subject label .nothing

/-- A failure ends one body after another, until one is reached that was started by what takes
failures: a catch, a thread, a round of tasks or, at last, the scenario itself. -/
def unwind (message : String) : List Layer → Play Unit
  | [] => return
  | ⟨body, link⟩ :: below => do
    dropGuards body.guards
    match link with
    | .top =>
      setStack []
      log "uncaught" (some (.text message))
    | .block => unwind message below
    | .task visit holds poller =>
      leaveTask visit holds
      match poller with
      | .round round =>
        setStack below
        nextTurn (round.record (some message))
      | .once subject _ | .untilReady subject _ =>
        letGo subject
        unwind message below
      | .await => unwind message below
    | .guarded _ subject g =>
      dropGuard g
      letGo subject
      unwind message below
    | .caught subject =>
      setStack below
      endStep subject "catch" (.text message)
    | .thread subject host =>
      backTo host
      setStack below
      endStep subject "thread" (.text message)
    | .worker subject name host =>
      park name host
      setStack below
      endStep subject "on" (.text message)
    | .framed _ subject host =>
      leaveFrame host
      letGo subject
      unwind message below

end Ambient.Scenario
