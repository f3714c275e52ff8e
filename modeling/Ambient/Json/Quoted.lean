import Ambient.Json.Tree

namespace Ambient.Json

inductive Piece where
  | char (c : Char)
  | surrogate (unit : Nat)

def Piece.ofUnit (unit : Nat) : Piece :=
  if 0xD800 ≤ unit ∧ unit < 0xE000 then .surrogate unit else .char (Char.ofNat unit)

def hexUnit? (a b c d : Char) : Option Nat :=
  [a, b, c, d].foldlM (fun n digit => (Text.hexValue? digit.toNat).map (n * 16 + ·)) 0

def unescape? : Char → Option Char
  | '"' => some '"'
  | '\\' => some '\\'
  | '/' => some '/'
  | 'b' => some '\x08'
  | 'f' => some '\x0c'
  | 'n' => some '\n'
  | 'r' => some '\r'
  | 't' => some '\t'
  | _ => none

def pieces : List Char → Option (List Piece × List Char)
  | [] => none
  | '"' :: cs => some ([], cs)
  | '\\' :: 'u' :: a :: b :: c :: d :: cs => do
    let unit ← hexUnit? a b c d
    let (ps, rest) ← pieces cs
    return (Piece.ofUnit unit :: ps, rest)
  | '\\' :: c :: cs => do
    let e ← unescape? c
    let (ps, rest) ← pieces cs
    return (.char e :: ps, rest)
  | c :: cs => do
    if c.toNat < 0x20 then none
    let (ps, rest) ← pieces cs
    return (.char c :: ps, rest)

/-- Joins each high surrogate with the low one after it; fails where either stands alone. -/
def resolve : List Piece → Option (List Char)
  | [] => some []
  | .char c :: ps => (resolve ps).map (c :: ·)
  | .surrogate high :: .surrogate low :: ps =>
    if high < 0xDC00 ∧ 0xDC00 ≤ low then
      (resolve ps).map (Char.ofNat (0x10000 + (high - 0xD800) * 0x400 + (low - 0xDC00)) :: ·)
    else none
  | .surrogate _ :: _ => none

/-- Reads a string after its opening quote. The content is `none` where it is broken. -/
def readString (cs : List Char) : Option (Option String × List Char) := do
  let (ps, rest) ← pieces cs
  return ((resolve ps).map String.ofList, rest)

end Ambient.Json
