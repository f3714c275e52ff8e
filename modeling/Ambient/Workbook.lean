import Ambient.Header

namespace Ambient

structure Workbook where
  contexts : Std.TreeMap String Context compare
  values : Std.TreeMap String Shared compare
  supply : Supply

namespace Workbook

open Json (Value)

def blank : Workbook := ⟨∅, ∅, .start⟩

inductive Derivation where
  | copy
  | value (key : String) (d : Datum)
  | values (pairs : List (String × Datum))
  /-- Binds `key` followed by each number below `count` to that number. -/
  | fill (key : String) (count : Nat)
  | setCorrelation (name : String) (v : Value)
  | removeCorrelation (name : String)
  | clearCorrelations
  | correlations (pairs : List (String × Value))
  | span (s : SpanContext)
  | extract (carrier : Carrier)

inductive Query where
  | get (key : String) (kind : Kind)
  | getAny (key : String)
  | contains (key : String)
  | size
  | keys
  | display
  | entries
  | correlation (name : String)
  | correlations
  | span
  | inject (carrier : Carrier)
  | insert (key : String) (d : Datum)
  | remove (key : String)
  | clear

inductive Step where
  /-- Starts from the empty context where no source is given. -/
  | derive (source : Option String) (how : Derivation) (target : String)
  | bindShared (source key value target : String)
  | share (d : Datum) (target : String)
  | takeShared (source key target : String)
  | sameShared (a b : String)
  | same (a b : String)
  | ask (source : String) (query : Query)

inductive Answer where
  | nothing
  | unknown
  | context (c : Context)
  | datum (d : Option Datum)
  | flag (b : Bool)
  | size (n : Nat) (isEmpty : Bool)
  | names (names : List String)
  | text (s : String)
  | value (v : Option Value)
  | correlations (b : Correlations)
  | span (s : SpanContext)
  | carrier (carrier : Carrier)
  | error (e : ContextError)

def context (w : Workbook) (name : String) : Context := w.contexts.getD name ∅

def derive (c : Context) : Derivation → StateM Supply Context
  | .copy => return c
  | .value key d => c.withValue key d
  | .values pairs => c.withValues pairs
  | .fill key count =>
    c.withValues ((List.range count).map fun i => (key ++ toString i, ⟨.int64, Int64.ofNat i⟩))
  | .setCorrelation name v => c.setCorrelation name v
  | .removeCorrelation name => c.removeCorrelation name
  | .clearCorrelations => c.clearCorrelations
  | .correlations pairs => c.withCorrelations (.ofPairs pairs)
  | .span s => c.withSpan s
  | .extract carrier => Header.extract carrier c

def ofAttempt : Except ContextError Context → Answer
  | .ok c => .context c
  | .error e => .error e

def ask (c : Context) : Query → Answer
  | .get key kind => .datum ((c.get? key kind).map fun v => ⟨kind, v⟩)
  | .getAny key => .datum ((c.shared? key).map (·.datum))
  | .contains key => .flag (c.contains key)
  | .size => .size c.size c.isEmpty
  | .keys => .names c.keys
  | .display => .text (String.ofList c.display)
  | .entries => .context c
  | .correlation name => .value (c.correlation? name)
  | .correlations => .correlations c.correlations
  | .span => .span c.span
  | .inject carrier => .carrier (Header.inject carrier c)
  | .insert key d => ofAttempt (c.insert key d)
  | .remove key => ofAttempt (c.remove key)
  | .clear => ofAttempt c.clear

def putContext (w : Workbook) (target : String) (c : Context) : Answer × Workbook :=
  (.context c, { w with contexts := w.contexts.insert target c })

def step (w : Workbook) : Step → Answer × Workbook
  | .derive source how target =>
    let (c, supply) := derive (source.elim ∅ w.context) how w.supply
    putContext { w with supply } target c
  | .bindShared source key value target =>
    match w.values[value]? with
    | some v => putContext w target ((w.context source).withShared key v)
    | none => (.unknown, w)
  | .share d target =>
    let (v, supply) := Shared.make d w.supply
    (.nothing, { w with values := w.values.insert target v, supply })
  | .takeShared source key target =>
    match (w.context source).shared? key with
    | some v => (.flag true, { w with values := w.values.insert target v })
    | none => (.flag false, w)
  | .sameShared a b =>
    match w.values[a]?, w.values[b]? with
    | some v, some u => (.flag (v.id == u.id), w)
    | _, _ => (.nothing, w)
  | .same a b => (.flag (w.context a == w.context b), w)
  | .ask source query => (ask (w.context source) query, w)

def run (w : Workbook) : List Step → List Answer
  | [] => []
  | s :: steps => let (answer, w) := w.step s; answer :: w.run steps

end Workbook
end Ambient
