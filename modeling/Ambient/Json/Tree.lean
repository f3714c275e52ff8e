import Ambient.Decimal.Numeral
import Ambient.Text.Hex

namespace Ambient.Json

inductive Tree where
  | null
  | bool (b : Bool)
  | number (n : Numeral)
  | text (s : String)
  /-- A string, or an object with a name, in which an escaped surrogate has no partner. Its text
  is well formed, but it holds nothing that could be read. -/
  | broken
  | array (items : List Tree)
  | object (fields : List (String × Tree))

def escapeChar (c : Char) : List Char :=
  match c with
  | '"' => ['\\', '"']
  | '\\' => ['\\', '\\']
  | '\n' => ['\\', 'n']
  | '\r' => ['\\', 'r']
  | '\t' => ['\\', 't']
  | '\x08' => ['\\', 'b']
  | '\x0c' => ['\\', 'f']
  | c => if c.toNat < 0x20 then ['\\', 'u'] ++ Text.fixedHex 4 c.toNat else [c]

def quote (cs : List Char) : List Char := '"' :: cs.flatMap escapeChar ++ ['"']

namespace Tree

mutual

def render : Tree → List Char
  | .null => ['n', 'u', 'l', 'l']
  | .bool true => ['t', 'r', 'u', 'e']
  | .bool false => ['f', 'a', 'l', 's', 'e']
  | .number n => n.render
  | .text s => quote s.toList
  | .broken => ['"', '\\', 'u', 'd', '8', '0', '0', '"']
  | .array items => '[' :: renderItems items ++ [']']
  | .object fields => '{' :: renderFields fields ++ ['}']

def renderItems : List Tree → List Char
  | [] => []
  | [t] => t.render
  | t :: ts => t.render ++ ',' :: renderItems ts

def renderFields : List (String × Tree) → List Char
  | [] => []
  | [(name, t)] => quote name.toList ++ ':' :: t.render
  | (name, t) :: ts => quote name.toList ++ ':' :: t.render ++ ',' :: renderFields ts

end

def toText (t : Tree) : String := String.ofList t.render

end Tree
end Ambient.Json
