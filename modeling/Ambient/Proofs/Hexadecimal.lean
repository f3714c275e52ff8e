import Mathlib.Algebra.Group.Nat.Defs
import Mathlib.Data.List.Induction
import Ambient.SpanContext
import Ambient.Text.Letter

namespace Ambient

namespace Text

def isLowerHex (c : Char) : Bool := '0' ≤ c && c ≤ '9' || 'a' ≤ c && c ≤ 'f'

def hexNumber? (cs : List Char) : Option Nat :=
  cs.foldlM (fun n c => (hexValue? c.toNat).map (n * 16 + ·)) 0

/-- A text that gives a number at full width, in lower case. -/
structure WritesHex (width n : Nat) (cs : List Char) : Prop where
  length : cs.length = width
  lower : ∀ c ∈ cs, isLowerHex c
  number : hexNumber? cs = some n

variable {width n : Nat} {cs : List Char}

theorem isLowerHex_lowerDigit (d : Fin 16) : isLowerHex (lowerDigit d) := by
  revert d; decide

theorem exists_lowerDigit {c : Char} (h : isLowerHex c) : ∃ d : Fin 16, lowerDigit d = c := by
  have ascii : c.toNat < 0x80 := by
    simp only [isLowerHex, Bool.or_eq_true, Bool.and_eq_true, decide_eq_true_eq] at h
    rcases h with ⟨-, h⟩ | ⟨-, h⟩ <;>
      exact Nat.lt_of_le_of_lt (UInt32.le_iff_toNat_le.1 h) (by decide)
  revert h
  refine ascii_of_table (P := fun c => isLowerHex c → ∃ d : Fin 16, lowerDigit d = c) ?_ c ascii
  decide

theorem isLowerHex_of_mem_fixedHex {c : Char} (h : c ∈ fixedHex width n) : isLowerHex c := by
  induction width generalizing n with
  | zero => cases h
  | succ width ih =>
    rcases List.mem_append.1 h with front | last
    · exact ih front
    · rw [List.mem_singleton.1 last]
      exact isLowerHex_lowerDigit ⟨n % 16, by omega⟩

theorem hexNumber?_concat (cs : List Char) (c : Char) :
    hexNumber? (cs ++ [c]) =
      (hexNumber? cs).bind fun n => (hexValue? c.toNat).map (n * 16 + ·) := by
  simp [hexNumber?, List.foldlM_append]

theorem hexNumber?_fixedHex (width n : Nat) :
    hexNumber? (fixedHex width n) = some (n % 16 ^ width) := by
  induction width generalizing n with
  | zero => simp [fixedHex, hexNumber?, Nat.mod_one]
  | succ width ih =>
    have last : hexValue? (lowerDigit (n % 16)).toNat = some (n % 16) :=
      hexValue?_lowerDigit ⟨n % 16, by omega⟩
    have joined : n / 16 % 16 ^ width * 16 + n % 16 = n % 16 ^ (width + 1) := by
      rw [Nat.pow_succ, Nat.mul_comm (16 ^ width), Nat.mod_mul]
      omega
    rw [fixedHex, hexNumber?_concat, ih, last, Option.bind_some, Option.map_some, joined]

theorem eq_fixedHex_of_hexNumber? (lower : ∀ c ∈ cs, isLowerHex c)
    (number : hexNumber? cs = some n) : cs = fixedHex cs.length n := by
  induction cs using List.reverseRecOn generalizing n with
  | nil => rfl
  | append_singleton cs c ih =>
    obtain ⟨d, rfl⟩ := exists_lowerDigit (lower c (by simp))
    rw [hexNumber?_concat, hexValue?_lowerDigit] at number
    obtain ⟨m, front, last⟩ := Option.bind_eq_some_iff.1 number
    cases last
    have shorter := ih (fun c hc => lower c (by simp [hc])) front
    have quotient : (m * 16 + d) / 16 = m := by omega
    have remainder : (m * 16 + d) % 16 = d := by omega
    rw [List.length_append, List.length_singleton, fixedHex, quotient, remainder, ← shorter]

theorem writesHex_iff (fits : n < 16 ^ width) : WritesHex width n cs ↔ cs = fixedHex width n := by
  constructor
  · rintro ⟨rfl, lower, number⟩
    exact eq_fixedHex_of_hexNumber? lower number
  · rintro rfl
    refine ⟨length_fixedHex width n, fun c => isLowerHex_of_mem_fixedHex, ?_⟩
    rw [hexNumber?_fixedHex, Nat.mod_eq_of_lt fits]

theorem fixedHex_inj {m : Nat} (hn : n < 16 ^ width) (hm : m < 16 ^ width) :
    fixedHex width n = fixedHex width m ↔ n = m := by
  constructor
  · intro same
    have number := congrArg hexNumber? same
    rw [hexNumber?_fixedHex, hexNumber?_fixedHex, Nat.mod_eq_of_lt hn, Nat.mod_eq_of_lt hm] at number
    exact Option.some.inj number
  · rintro rfl
    rfl

end Text

namespace SpanContext

open Text (WritesHex fixedHex fixedHex_inj length_fixedHex writesHex_iff)

theorem traceId_lt (s : SpanContext) : s.traceId.toNat < 16 ^ 32 := s.traceId.isLt

theorem spanId_lt (s : SpanContext) : s.spanId.toNat < 16 ^ 16 := s.spanId.isLt

theorem display_eq_display_iff {s t : SpanContext} :
    s.display = t.display ↔ s.traceId = t.traceId ∧ s.spanId = t.spanId := by
  constructor
  · intro same
    -- The first ids are equally long, so the texts part at the same hyphen.
    have level : (fixedHex 32 s.traceId.toNat).length = (fixedHex 32 t.traceId.toNat).length := by
      rw [length_fixedHex, length_fixedHex]
    obtain ⟨trace, rest⟩ := List.append_inj same level
    have span := (List.cons.inj rest).2
    exact ⟨BitVec.eq_of_toNat_eq ((fixedHex_inj s.traceId_lt t.traceId_lt).1 trace),
      BitVec.eq_of_toNat_eq ((fixedHex_inj s.spanId_lt t.spanId_lt).1 span)⟩
  · rintro ⟨trace, span⟩
    rw [display, display, trace, span]

/-- The display of a span is the one text in which both ids stand at full width with a hyphen between
them. Spans are displayed alike if and only if they have the same ids. -/
theorem eq_display_iff (s : SpanContext) :
    (∀ cs, cs = s.display ↔ ∃ trace span, cs = trace ++ '-' :: span ∧
      WritesHex 32 s.traceId.toNat trace ∧ WritesHex 16 s.spanId.toNat span) ∧
    ∀ t : SpanContext, s.display = t.display ↔ s.traceId = t.traceId ∧ s.spanId = t.spanId := by
  refine ⟨fun cs => ?_, fun t => display_eq_display_iff⟩
  rw [display]
  constructor
  · intro h
    exact ⟨_, _, h, (writesHex_iff s.traceId_lt).2 rfl, (writesHex_iff s.spanId_lt).2 rfl⟩
  · rintro ⟨trace, span, h, first, second⟩
    rw [h, (writesHex_iff s.traceId_lt).1 first, (writesHex_iff s.spanId_lt).1 second]

example : (⟨1, 2, false⟩ : SpanContext).display =
    "00000000000000000000000000000001-0000000000000002".toList := by decide

end SpanContext
end Ambient
