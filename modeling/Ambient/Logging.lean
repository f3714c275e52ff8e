import Ambient.Config
import Ambient.Text.Alphanumeric
import Ambient.Text.Segment

namespace Ambient.Logging

inductive FilterError where
  | directive
  | level
deriving DecidableEq

def FilterError.message : FilterError → String
  | directive => "invalid filter directive"
  | level => "error parsing level filter: expected one of \"off\", \"error\", \"warn\", \"info\", " ++
      "\"debug\", \"trace\", or a number 0-5"

def levelNames : List String := ["off", "error", "warn", "info", "debug", "trace"]

def count? (cs : List Char) : Option Nat :=
  let digits := match cs with
    | '+' :: cs => cs
    | cs => cs
  if digits ≠ [] ∧ digits.all Char.isDigit then some (Nat.ofDigitChars 10 digits 0) else none

def isLevel (cs : List Char) : Bool :=
  levelNames.any (fun name => Text.sameLetters cs name.toList) ||
    match count? cs with
    | some n => n ≤ 5
    | none => false

def startsName (c : Char) : Bool := Text.isAlphanumeric c || c == '-' || c == ':' || c == '_'

inductive Place where
  | start
  | name
  | span
  | field (isEmpty : Bool)
  | afterFields
  | afterSpan

/-- Reads a directive to its level sign and gives what follows the sign, if there is one. -/
def readDirective : Place → List Char → Except FilterError (Option (List Char))
  | .name, [] | .afterSpan, [] => .ok none
  | _, [] => .error .directive
  | .start, c :: cs =>
    if c = '[' then readDirective .span cs
    else if startsName c then readDirective .name cs
    else .error .directive
  | .name, c :: cs =>
    if c = '=' then .ok (some cs)
    else if c = '[' then readDirective .span cs
    else readDirective .name cs
  | .span, c :: cs =>
    if c = ']' then readDirective .afterSpan cs
    else if c = '{' then readDirective (.field true) cs
    else readDirective .span cs
  | .field isEmpty, c :: cs =>
    if c ≠ '}' then readDirective (.field false) cs
    else if isEmpty then .error .directive
    else readDirective .afterFields cs
  | .afterFields, c :: cs => if c = ']' then readDirective .afterSpan cs else .error .directive
  | .afterSpan, c :: cs => if c = '=' then .ok (some cs) else .error .directive

/-- A level may be left out after its sign, but a directive with the sign must not be padded. -/
def checkDirective (cs : List Char) : Except FilterError Unit := do
  let bare := Text.trim cs
  match ← readDirective .start bare with
  | none => return
  | some text => if bare = cs ∧ (text.isEmpty ∨ isLevel text) then return else throw .level

/-- A filter is a list of directives; empty ones are passed over. -/
def checkFilter (filter : String) : Except FilterError Unit :=
  ((Text.split ',' filter.toList).filter (!·.isEmpty)).forM checkDirective

def install (installed : Bool) (config : LoggingConfig) : Except ContextError Unit :=
  match checkFilter config.filter with
  | .error e => .error (.logging ("invalid filter '" ++ config.filter ++ "': " ++ e.message))
  | .ok _ =>
    if installed then .error (.logging "a global default trace dispatcher has already been set")
    else .ok ()

end Ambient.Logging
