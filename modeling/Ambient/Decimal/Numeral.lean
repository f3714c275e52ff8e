namespace Ambient

structure Numeral where
  negative : Bool
  whole : Nat
  fraction : List (Fin 10)
  exponent : Option Int
deriving DecidableEq

namespace Numeral

def digitChar (d : Fin 10) : Char := Char.ofNat (0x30 + d.val)

def digit? (c : Char) : Option (Fin 10) :=
  if h : 0x30 ≤ c.toNat ∧ c.toNat < 0x3A then some ⟨c.toNat - 0x30, by omega⟩ else none

theorem digit?_digitChar (d : Fin 10) : digit? (digitChar d) = some d := by
  revert d; decide

def fixedDigits : (count : Nat) → (n : Nat) → List (Fin 10)
  | 0, _ => []
  | count + 1, n => fixedDigits count (n / 10) ++ [⟨n % 10, by omega⟩]

def digitCount (n : Nat) : Nat := (Nat.toDigits 10 n).length

def ofInt (n : Int) : Numeral := ⟨n < 0, n.natAbs, [], none⟩

/-- The integer that a numeral without point and exponent denotes. -/
def toInt? (n : Numeral) : Option Int :=
  match n.fraction, n.exponent with
  | [], none => some (if n.negative then -n.whole else n.whole)
  | _, _ => none

theorem toInt?_ofInt (n : Int) : (ofInt n).toInt? = some n := by
  have value : (if n < 0 then -(n.natAbs : Int) else n.natAbs) = n := by
    split <;> omega
  simpa only [toInt?, ofInt, decide_eq_true_eq] using congrArg some value

/-- A written exponent always has a sign. -/
def render (n : Numeral) : List Char :=
  (if n.negative then ['-'] else []) ++ Nat.toDigits 10 n.whole ++
    (if n.fraction.isEmpty then [] else '.' :: n.fraction.map digitChar) ++
    match n.exponent with
    | none => []
    | some e => 'e' :: (if e < 0 then '-' else '+') :: Nat.toDigits 10 e.natAbs

def takeDigits : List Char → List (Fin 10) × List Char
  | [] => ([], [])
  | c :: cs =>
    match digit? c with
    | some d => let (ds, rest) := takeDigits cs; (d :: ds, rest)
    | none => ([], c :: cs)

def ofDigits (ds : List (Fin 10)) : Nat := ds.foldl (fun n d => n * 10 + d.val) 0

def readFraction : List Char → Option (List (Fin 10) × List Char)
  | '.' :: cs => match takeDigits cs with
    | ([], _) => none
    | (ds, rest) => some (ds, rest)
  | cs => some ([], cs)

def readExponentDigits (negative : Bool) (cs : List Char) : Option (Option Int × List Char) :=
  match takeDigits cs with
  | ([], _) => none
  | (ds, rest) => some (some (if negative then -ofDigits ds else ofDigits ds), rest)

def readExponent : List Char → Option (Option Int × List Char)
  | c :: cs =>
    if c = 'e' ∨ c = 'E' then
      match cs with
      | '+' :: cs => readExponentDigits false cs
      | '-' :: cs => readExponentDigits true cs
      | cs => readExponentDigits false cs
    else some (none, c :: cs)
  | [] => some (none, [])

/-- The whole part: one digit at least, and no zero before another digit. -/
def readWhole (cs : List Char) : Option (Nat × List Char) :=
  match takeDigits cs with
  | ([], _) => none
  | (d :: ds, rest) => if d = 0 ∧ ds ≠ [] then none else some (ofDigits (d :: ds), rest)

def read (cs : List Char) : Option (Numeral × List Char) := do
  let (negative, cs) := match cs with
    | '-' :: cs => (true, cs)
    | cs => (false, cs)
  let (whole, cs) ← readWhole cs
  let (fraction, cs) ← readFraction cs
  let (exponent, cs) ← readExponent cs
  return (⟨negative, whole, fraction, exponent⟩, cs)

end Numeral
end Ambient
