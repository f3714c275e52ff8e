import Ambient.Json.Quoted

namespace Ambient.Json

def isBlank (c : Char) : Bool := c == ' ' || c == '\n' || c == '\t' || c == '\r'

def skip (cs : List Char) : List Char := cs.dropWhile isBlank

def dropWord (word cs : List Char) : Option (List Char) :=
  if word.isPrefixOf cs then some (cs.drop word.length) else none

def Tree.ofFields (fields : List (Option String × Tree)) : Tree :=
  match fields.mapM fun (name, t) => name.map (·, t) with
  | some fields => .object fields
  | none => .broken

def Tree.ofContent : Option String → Tree
  | some s => .text s
  | none => .broken

mutual

/-- Reads one value, leading blanks included. The count bounds the depth of the calls; the length
of the text is enough. -/
def readValue : Nat → List Char → Option (Tree × List Char)
  | 0, _ => none
  | fuel + 1, cs =>
    match skip cs with
    | '[' :: cs =>
      match skip cs with
      | ']' :: rest => some (.array [], rest)
      | cs => do
        let (items, rest) ← readItems fuel cs
        return (.array items, rest)
    | '{' :: cs =>
      match skip cs with
      | '}' :: rest => some (.object [], rest)
      | cs => do
        let (fields, rest) ← readFields fuel cs
        return (Tree.ofFields fields, rest)
    | '"' :: cs => do
      let (content, rest) ← readString cs
      return (Tree.ofContent content, rest)
    | 'n' :: cs => do return (.null, ← dropWord ['u', 'l', 'l'] cs)
    | 't' :: cs => do return (.bool true, ← dropWord ['r', 'u', 'e'] cs)
    | 'f' :: cs => do return (.bool false, ← dropWord ['a', 'l', 's', 'e'] cs)
    | cs => do
      let (n, rest) ← Numeral.read cs
      return (.number n, rest)

def readItems : Nat → List Char → Option (List Tree × List Char)
  | 0, _ => none
  | fuel + 1, cs => do
    let (t, cs) ← readValue fuel cs
    match skip cs with
    | ',' :: cs => do
      let (ts, rest) ← readItems fuel cs
      return (t :: ts, rest)
    | ']' :: rest => some ([t], rest)
    | _ => none

def readFields : Nat → List Char → Option (List (Option String × Tree) × List Char)
  | 0, _ => none
  | fuel + 1, cs => do
    match skip cs with
    | '"' :: cs => do
      let (name, cs) ← readString cs
      match skip cs with
      | ':' :: cs => do
        let (t, cs) ← readValue fuel cs
        match skip cs with
        | ',' :: cs => do
          let (fields, rest) ← readFields fuel cs
          return ((name, t) :: fields, rest)
        | '}' :: rest => some ([(name, t)], rest)
        | _ => none
      | _ => none
    | _ => none

end

/-- Reads a text that holds one value and nothing else but blanks. -/
def Tree.parse? (cs : List Char) : Option Tree := do
  let (t, rest) ← readValue (cs.length + 1) cs
  if (skip rest).isEmpty then some t else none

def Tree.ofText? (s : String) : Option Tree := Tree.parse? s.toList

end Ambient.Json
