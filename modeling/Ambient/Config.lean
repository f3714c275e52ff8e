import Ambient.Strategy

namespace Ambient

open Json (Tree)

inductive LogFormat where
  | pretty
  | json
deriving DecidableEq

namespace LogFormat

instance : Inhabited LogFormat := ⟨pretty⟩

def name : LogFormat → String
  | pretty => "pretty"
  | json => "json"

def ofSetting (s : String) : LogFormat :=
  if Text.sameLetters (Text.trim s.toList) "json".toList then json else pretty

def toTree (f : LogFormat) : Tree := .text f.name

def ofTree? (t : Tree) : Option LogFormat := do
  match ← t.case? with
  | "pretty" => some pretty
  | "json" => some json
  | _ => none

end LogFormat

structure LoggingConfig where
  filter : String
  format : LogFormat
deriving DecidableEq

namespace LoggingConfig

instance : Inhabited LoggingConfig := ⟨⟨"info", .pretty⟩⟩

def toTree (c : LoggingConfig) : Tree :=
  .object [("filter", .text c.filter), ("format", c.format.toTree)]

def ofTree? (t : Tree) : Option LoggingConfig := do
  match ← t.fields? ["filter", "format"] with
  | [some filter, some format] => return ⟨← filter.text?, ← LogFormat.ofTree? format⟩
  | [some filter, none] => return ⟨← filter.text?, default⟩
  | _ => none

end LoggingConfig

structure ContextConfig where
  strategy : Strategy
  logging : LoggingConfig
deriving DecidableEq

namespace ContextConfig

instance : Inhabited ContextConfig := ⟨⟨default, default⟩⟩

def toTree (c : ContextConfig) : Tree :=
  .object [("runtime", c.strategy.toTree), ("logging", c.logging.toTree)]

def toText (c : ContextConfig) : String := c.toTree.toText

/-- A field that is left out has its default; null does not stand for it. -/
def ofTree? (t : Tree) : Option ContextConfig := do
  match ← t.fields? ["runtime", "logging"] with
  | [strategy, logging] =>
    let strategy ← match strategy with
      | none => some default
      | some t => Strategy.ofTree? t
    let logging ← match logging with
      | none => some default
      | some t => LoggingConfig.ofTree? t
    return ⟨strategy, logging⟩
  | _ => none

def ofText? (s : String) : Option ContextConfig := (Tree.ofText? s).bind ofTree?

def strategyVariable : String := "OTEL_CONTEXT"

def filterVariable : String := "TRACECTX_LOG"

def formatVariable : String := "TRACECTX_LOG_FORMAT"

/-- Reads the settings of an environment. A blank strategy or filter counts as unset. -/
def ofLookup (lookup : String → Option String) : Except ContextError ContextConfig := do
  let given (name : String) := (lookup name).filter fun s => !Text.isBlankText s.toList
  let strategy ← match given strategyVariable with
    | some s => Strategy.parse s
    | none => .ok default
  let filter := (given filterVariable).getD (default : LoggingConfig).filter
  let format := match lookup formatVariable with
    | some s => LogFormat.ofSetting s
    | none => default
  return ⟨strategy, ⟨filter, format⟩⟩

end ContextConfig
end Ambient
