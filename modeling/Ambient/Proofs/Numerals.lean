import Ambient.Decimal.Numeral

namespace Ambient.Numeral

/-- No character of a numeral comes first. -/
structure Stops (rest : List Char) : Prop where
  digit : ∀ c ∈ rest.head?, digit? c = none
  point : ∀ c ∈ rest.head?, c ≠ '.'
  exponent : ∀ c ∈ rest.head?, c ≠ 'e' ∧ c ≠ 'E'

variable {rest : List Char}

theorem digitChar_eq (d : Fin 10) : digitChar d = Nat.digitChar d := by
  revert d; decide

theorem digitChar_ne_minus (d : Fin 10) : digitChar d ≠ '-' := by
  revert d; decide

theorem ofDigits_concat (ds : List (Fin 10)) (d : Fin 10) :
    ofDigits (ds ++ [d]) = ofDigits ds * 10 + d := by
  simp [ofDigits, List.foldl_append]

/-- A number is written with one digit at least, of which the first is zero only in the numeral of
zero. -/
theorem exists_digits (n : Nat) : ∃ d ds, Nat.toDigits 10 n = (d :: ds).map digitChar ∧
    ofDigits (d :: ds) = n ∧ (d = 0 → ds = []) := by
  induction n using Nat.strongRecOn with
  | _ n ih =>
    by_cases small : n < 10
    · refine ⟨⟨n, small⟩, [], ?_, ?_, fun _ => rfl⟩
      · rw [Nat.toDigits_of_lt_base small, List.map_singleton, digitChar_eq]
      · simp [ofDigits]
    · obtain ⟨d, ds, written, value, nonzero⟩ := ih (n / 10) (by omega)
      refine ⟨d, ds ++ [⟨n % 10, by omega⟩], ?_, ?_, ?_⟩
      · rw [Nat.toDigits_of_base_le (by decide) (by omega), written, ← List.cons_append,
          List.map_append, List.map_singleton, digitChar_eq]
      · rw [← List.cons_append, ofDigits_concat, value]
        simp only
        omega
      · -- A zero in front would leave nothing but that zero of the digits before the last.
        rintro rfl
        rw [nonzero rfl] at value
        have none : n / 10 = 0 := value.symm
        omega

theorem takeDigits_append (ds : List (Fin 10)) (stops : ∀ c ∈ rest.head?, digit? c = none) :
    takeDigits (ds.map digitChar ++ rest) = (ds, rest) := by
  induction ds with
  | nil =>
    cases rest with
    | nil => rfl
    | cons c cs =>
      have none : digit? c = none := stops c rfl
      simp [takeDigits, none]
  | cons d ds ih => simp [takeDigits, digit?_digitChar, ih]

theorem readWhole_toDigits (n : Nat) (stops : ∀ c ∈ rest.head?, digit? c = none) :
    readWhole (Nat.toDigits 10 n ++ rest) = some (n, rest) := by
  obtain ⟨d, ds, written, value, nonzero⟩ := exists_digits n
  have leading : ¬ (d = 0 ∧ ds ≠ []) := fun h => h.2 (nonzero h.1)
  rw [readWhole, written, takeDigits_append _ stops]
  simp only [if_neg leading, value]

def fractionText (ds : List (Fin 10)) : List Char :=
  if ds.isEmpty then [] else '.' :: ds.map digitChar

def exponentText : Option Int → List Char
  | none => []
  | some e => 'e' :: (if e < 0 then '-' else '+') :: Nat.toDigits 10 e.natAbs

theorem render_eq (n : Numeral) : n.render = (if n.negative then ['-'] else []) ++
    Nat.toDigits 10 n.whole ++ fractionText n.fraction ++ exponentText n.exponent := rfl

theorem readFraction_append (ds : List (Fin 10)) (stops : ∀ c ∈ rest.head?, digit? c = none)
    (point : ∀ c ∈ rest.head?, c ≠ '.') :
    readFraction (fractionText ds ++ rest) = some (ds, rest) := by
  cases ds with
  | nil =>
    rw [fractionText, List.isEmpty_nil, if_pos rfl, List.nil_append, readFraction]
    rintro cs rfl
    exact point '.' rfl rfl
  | cons d ds =>
    have digits := takeDigits_append (d :: ds) stops
    rw [fractionText, List.isEmpty_cons, if_neg Bool.false_ne_true, List.cons_append, readFraction,
      digits]

theorem readExponentDigits_toDigits (negative : Bool) (n : Nat)
    (stops : ∀ c ∈ rest.head?, digit? c = none) :
    readExponentDigits negative (Nat.toDigits 10 n ++ rest) =
      some (some (if negative then -(n : Int) else n), rest) := by
  obtain ⟨d, ds, written, value, -⟩ := exists_digits n
  rw [readExponentDigits, written, takeDigits_append _ stops]
  simp only [value]

theorem readExponent_append (e : Option Int) (stops : Stops rest) :
    readExponent (exponentText e ++ rest) = some (e, rest) := by
  cases e with
  | none =>
    cases rest with
    | nil => rfl
    | cons c cs =>
      have other : ¬ (c = 'e' ∨ c = 'E') := not_or.2 (stops.exponent c rfl)
      simp only [exponentText, List.nil_append, readExponent, if_neg other]
  | some e =>
    by_cases negative : e < 0
    · have signed : -(e.natAbs : Int) = e := by omega
      have digits := readExponentDigits_toDigits true e.natAbs stops.digit
      rw [if_pos rfl, signed] at digits
      rw [exponentText, if_pos negative]
      exact digits
    · have signed : (e.natAbs : Int) = e := by omega
      have digits := readExponentDigits_toDigits false e.natAbs stops.digit
      rw [if_neg Bool.false_ne_true, signed] at digits
      rw [exponentText, if_neg negative]
      exact digits

theorem digit_head_fraction (ds : List (Fin 10)) (stops : ∀ c ∈ rest.head?, digit? c = none) :
    ∀ c ∈ (fractionText ds ++ rest).head?, digit? c = none := by
  cases ds with
  | nil => exact stops
  | cons d ds =>
    rintro c ⟨⟩
    rfl

theorem head_exponent (e : Option Int) (stops : Stops rest) :
    ∀ c ∈ (exponentText e ++ rest).head?, digit? c = none ∧ c ≠ '.' := by
  cases e with
  | none => exact fun c hc => ⟨stops.digit c hc, stops.point c hc⟩
  | some e =>
    rintro c ⟨⟩
    exact ⟨rfl, by decide⟩

def readSign : List Char → Bool × List Char
  | '-' :: cs => (true, cs)
  | cs => (false, cs)

theorem read_eq (cs : List Char) : read cs =
    (readWhole (readSign cs).2).bind fun (whole, cs') =>
      (readFraction cs').bind fun (fraction, cs') =>
        (readExponent cs').bind fun (exponent, cs') =>
          some (⟨(readSign cs).1, whole, fraction, exponent⟩, cs') := rfl

theorem readSign_append (negative : Bool) (n : Nat) (cs : List Char) :
    readSign ((if negative then ['-'] else []) ++ (Nat.toDigits 10 n ++ cs)) =
      (negative, Nat.toDigits 10 n ++ cs) := by
  cases negative with
  | true => rfl
  | false =>
    obtain ⟨d, ds, written, -⟩ := exists_digits n
    simp [written, readSign, digitChar_ne_minus]

theorem read_append (n : Numeral) (stops : Stops rest) :
    read (n.render ++ rest) = some (n, rest) := by
  obtain ⟨negative, whole, fraction, exponent⟩ := n
  have behind := head_exponent exponent stops
  have afterFraction := readExponent_append exponent stops
  have afterWhole := readFraction_append fraction (fun c hc => (behind c hc).1)
    (fun c hc => (behind c hc).2)
  have afterSign := readWhole_toDigits whole
    (digit_head_fraction fraction (fun c hc => (behind c hc).1))
  rw [render_eq, read_eq]
  simp only [List.append_assoc, readSign_append, afterSign, afterWhole, afterFraction,
    Option.bind_some]

theorem exists_render_eq_cons (n : Numeral) :
    ∃ c cs, n.render = c :: cs ∧ (c = '-' ∨ ∃ d, c = digitChar d) := by
  obtain ⟨negative, whole, fraction, exponent⟩ := n
  cases negative with
  | true => exact ⟨_, _, rfl, .inl rfl⟩
  | false =>
    obtain ⟨d, ds, written, -⟩ := exists_digits whole
    refine ⟨digitChar d, ds.map digitChar ++ fractionText fraction ++ exponentText exponent, ?_,
      .inr ⟨d, rfl⟩⟩
    rw [render_eq, written]
    rfl

end Ambient.Numeral
