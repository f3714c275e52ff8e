import Ambient.Config
import Ambient.Correlations
import Ambient.SpanContext
import Ambient.Proofs.Document

namespace Ambient

open Json (Tree Value)

theorem Json.Tree.below?_ofInt {bound n : Nat} (h : n < bound) :
    (Tree.number (Numeral.ofInt n)).below? bound = some ⟨n, h⟩ := by
  have sign : decide ((n : Int) < 0) = false := by simp
  simp only [Numeral.ofInt, sign, Int.natAbs_natCast, below?, dif_pos h]

namespace SpanContext

theorem ofTree?_toTree (s : SpanContext) : ofTree? s.toTree = some s := by
  have trace := Tree.below?_ofInt s.traceId.isLt
  have span := Tree.below?_ofInt s.spanId.isLt
  simp [ofTree?, toTree, Tree.fields?, fieldNames, trace, span, Tree.bool?]

end SpanContext

namespace Immutability

theorem ofTree?_toTree (v : Immutability) : ofTree? v.toTree = some v := by
  obtain ⟨operation, key⟩ := v
  cases key with
  | none => rfl
  | some key => rfl

end Immutability

theorem Strategy.ofTree?_toTree (s : Strategy) : ofTree? s.toTree = some s := by
  cases s <;> rfl

theorem LogFormat.ofTree?_toTree (f : LogFormat) : ofTree? f.toTree = some f := by
  cases f <;> rfl

theorem LoggingConfig.ofTree?_toTree (c : LoggingConfig) : ofTree? c.toTree = some c := by
  obtain ⟨filter, format⟩ := c
  have back := format.ofTree?_toTree
  simp [ofTree?, toTree, Tree.fields?, Tree.text?, back]

theorem ContextConfig.ofTree?_toTree (c : ContextConfig) : ofTree? c.toTree = some c := by
  obtain ⟨strategy, logging⟩ := c
  simp [ofTree?, toTree, Tree.fields?, strategy.ofTree?_toTree, logging.ofTree?_toTree]

namespace Json

theorem Whole.ofInt?_val (n : Whole) : Whole.ofInt? n.val = some n := dif_pos ⟨n.least, n.most⟩

theorem Number.ofNumeral?_ofInt (n : Whole) :
    Number.ofNumeral? (Numeral.ofInt n.val) = some (.whole n) := by
  have noZero : ((Numeral.ofInt n.val).negative && (Numeral.ofInt n.val).whole == 0) = false := by
    simp only [Numeral.ofInt, Bool.and_eq_false_iff, decide_eq_false_iff_not, beq_eq_false_iff_ne]
    omega
  rw [Number.ofNumeral?, noZero, if_neg Bool.false_ne_true, Numeral.toInt?_ofInt, Option.bind_some,
    Whole.ofInt?_val]

/-- Null, a truth value, an integer or a text. -/
def Value.isScalar : Value → Bool
  | .null | .bool _ | .number (.whole _) | .text _ => true
  | .number (.real _) | .array _ | .object _ => false

theorem Value.ofTree?_toTree {v : Value} (h : v.isScalar) (depth : Nat) :
    ofTree? depth v.toTree = some v := by
  cases v with
  | null => cases depth <;> rfl
  | bool b => cases depth <;> rfl
  | text s => cases depth <;> rfl
  | number x =>
    cases x with
    | whole n =>
      have back := Number.ofNumeral?_ofInt n
      cases depth <;> simp only [toTree, Number.toNumeral, ofTree?, back, Option.map_some]
    | real x => cases h
  | array items => cases h
  | object fields => cases h

end Json

namespace Correlations

theorem ofTree?_toTree {c : Correlations} (scalar : ∀ e ∈ c.entries, e.2.isScalar) :
    ofTree? c.toTree = some c := by
  obtain ⟨entries⟩ := c
  have back : (entries.map fun e => Tree.array [.text e.1, e.2.toTree]).mapM entry? =
      some entries := by
    induction entries with
    | nil => rfl
    | cons e entries ih =>
      have first := Value.ofTree?_toTree (scalar e List.mem_cons_self) (documentDepth - 2)
      have others := ih fun e he => scalar e (List.mem_cons_of_mem _ he)
      simp [ entry?, Tree.text?, first, others]
  simp [ofTree?, toTree, back]

end Correlations

/-- Spans, configurations and errors are read back from the text that they are written as, and so
are correlations all of whose values are null, truth values, integers or texts. -/
theorem records_read_back :
    (∀ s : SpanContext, SpanContext.ofText? s.toText = some s) ∧
      (∀ c : ContextConfig, ContextConfig.ofText? c.toText = some c) ∧
      (∀ v : Immutability, Immutability.ofText? v.toText = some v) ∧
      ∀ c : Correlations, (∀ e ∈ c.entries, e.2.isScalar) →
        Correlations.ofText? c.toText = some c := by
  refine ⟨fun s => ?_, fun c => ?_, fun v => ?_, fun c scalar => ?_⟩
  · rw [SpanContext.ofText?, SpanContext.toText, Tree.ofText?_toText]
    exact s.ofTree?_toTree
  · rw [ContextConfig.ofText?, ContextConfig.toText, Tree.ofText?_toText]
    exact c.ofTree?_toTree
  · rw [Immutability.ofText?, Immutability.toText, Tree.ofText?_toText]
    exact v.ofTree?_toTree
  · rw [Correlations.ofText?, Correlations.toText, Tree.ofText?_toText]
    exact Correlations.ofTree?_toTree scalar

theorem records_read_back_with_escapes :
    let c : Correlations := ⟨[("a\"\\", .number (.whole ⟨-0x8000000000000000, by decide, by decide⟩)),
      ("", .number (.whole ⟨0xFFFFFFFFFFFFFFFF, by decide, by decide⟩)), ("", .null),
      ("/", .text "\x01\x1f\n\x7f😀"), ("b", .bool false)]⟩
    (∀ e ∈ c.entries, e.2.isScalar) ∧
      c.toText = "[[\"a\\\"\\\\\",-9223372036854775808],[\"\",18446744073709551615]," ++
        "[\"\",null],[\"/\",\"\\u0001\\u001f\\n\x7f😀\"],[\"b\",false]]" ∧
      Correlations.ofText? c.toText = some c := by
  intro c
  have scalar : ∀ e ∈ c.entries, e.2.isScalar := by simp [c, Value.isScalar]
  exact ⟨scalar, rfl, records_read_back.2.2.2 c scalar⟩

end Ambient
