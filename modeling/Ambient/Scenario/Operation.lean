import Ambient.Header
import Ambient.Scenario.Release

namespace Ambient.Scenario

def Operation.label : Operation → String
  | .name => "name"
  | .get => "get"
  | .value .. => "value"
  | .set _ => "set"
  | .remove => "remove"
  | .equals _ => "eq"
  | .keep _ => "keep"
  | .inject => "inject"
  | .snapshot _ => "snapshot"
  | .restore _ => "restore"
  | .attach .. => "attach"
  | .detach _ => "detach"
  | .activate .. => "activate"
  | .frame .. => "frame"

def saved : Saved → Play (Option Context)
  | .snapshot register => return ((← get).snapshots[register]?).join
  | .context c => return some (← source c)
  | .unbound => return none

def boundNames (owners : Std.TreeMap Nat String compare) (frame : Bindings) : List String :=
  (frame.keys.filterMap (owners[·]?)).mergeSort fun a b => decide (a ≤ b)

def operate (r : Cell) : Operation → Play Report
  | .name => return .text r.strategy.name
  | .get => return .context (← ask r.current)
  | .value key kind => return .datum (((← ask r.current).get? key kind).map fun v => ⟨kind, v⟩)
  | .set c => do
    let c ← source c
    changeSite (r.set c)
    return .nothing
  | .remove => do
    changeSite r.remove
    return .nothing
  | .equals c => do
    let c ← source c
    return .flag ((← ask r.current) == c)
  | .keep target => do
    let c ← ask r.current
    modify fun st => { st with contexts := st.contexts.insert target c }
    return .nothing
  | .inject => return .carrier (Header.inject .empty (← ask r.current))
  | .snapshot target => do
    let c ← ask r.binding
    modify fun st => { st with snapshots := st.snapshots.insert target c }
    return .snapshot c
  | .restore what => do
    let c ← saved what
    changeSite (r.restore c)
    return .nothing
  | .attach c target => do
    let c ← source c
    let t ← onSite (r.attach c)
    let st ← get
    set { st with tokens := st.tokens.insert target t }
    return .token t.previous t.depth (st.owners.getD t.issuer "")
  | .detach target => do
    match (← get).tokens[target]? with
    | none => return .text "missing"
    | some t =>
      modify fun st => { st with tokens := st.tokens.erase target }
      changeSite (r.detach t)
      return .nothing
  | .activate c name shared => do
    let c ← source c
    let g ← onSite (Guard.activate r c)
    hold r
    if shared then putGuard name g else changeGuards ((name, g) :: ·)
    return .nothing
  | .frame c target => do
    let c ← match c with
      | none => pure none
      | some c => some <$> source c
    match ← ask (r.fork c) with
    | none => return .names none
    | some frame =>
      let st ← get
      set { st with frames := st.frames.insert target frame }
      return .names (some (boundNames st.owners frame))

def Handling.label : Handling → String
  | .finish _ => "end"
  | .isActive _ => "is_active"
  | .drop _ => "drop_guard"

def handle : Handling → Play Report
  | .finish name => do
    match ← guard? name with
    | none => return .text "missing"
    | some g =>
      let g ← onSite g.finish
      changeGuard name (some g)
      return .flag g.isActive
  | .isActive name => do
    match ← guard? name with
    | none => return .text "missing"
    | some g => return .flag g.isActive
  | .drop name => do
    match ← guard? name with
    | none => return .text "missing"
    | some g =>
      changeGuard name none
      dropGuard g
      return .nothing

def Command.label : Command → String
  | .define .. => "let"
  | .extract .. => "extract"
  | .sameSnapshot .. => "snapshot_eq"
  | .inTask => "in_task"
  | .sameCell .. => "same_id"
  | .make .. => "new"
  | .dropCell _ => "drop_runtime"

def putContext (target : String) (c : Context) : Play (Option Report) := do
  modify fun st => { st with contexts := st.contexts.insert target c }
  return some (.context c)

def command : Command → Play (Option Report)
  | .define c pairs target => do
    let c ← source c
    putContext target (← supply (c.withValues pairs))
  | .extract c carrier target => do
    let c ← source c
    putContext target (← supply (Header.extract carrier c))
  | .sameSnapshot a b => do
    let st ← get
    return some (.flag (st.snapshots[a]? == st.snapshots[b]?))
  | .inTask => return some (.flag (← ask (·.frame.isSome)))
  | .sameCell a b => do
    let id (named : Named) := named.cell.id
    return some (.flag ((← cell? a).map id == (← cell? b).map id))
  | .make name how => do
    makeCell name how
    return none
  | .dropCell name => do
    match ← cell? name with
    | none => return some (.flag false)
    | some named =>
      modify fun st => { st with cells := st.cells.erase name }
      release named.cell
      return some (.flag true)

end Ambient.Scenario
