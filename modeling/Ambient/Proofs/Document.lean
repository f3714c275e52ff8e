import Ambient.Json.Reader
import Ambient.Proofs.Numerals
import Ambient.Proofs.Quotation

namespace Ambient

theorem Numeral.Stops.nil : Stops [] := ⟨by simp, by simp, by simp⟩

theorem Numeral.Stops.cons {c : Char} (h : c = ',' ∨ c = ']' ∨ c = '}') (cs : List Char) :
    Stops (c :: cs) := by
  constructor <;> rintro _ ⟨⟩ <;> rcases h with rfl | rfl | rfl <;> decide

namespace Json

open Numeral (Stops)

theorem skip_cons {c : Char} (h : isBlank c = false) (cs : List Char) : skip (c :: cs) = c :: cs := by
  simp [skip, h]

theorem other_of_numeral {c : Char} (h : c = '-' ∨ ∃ d, c = Numeral.digitChar d) :
    isBlank c = false ∧ c ∉ [']', '[', '{', '"', 'n', 't', 'f'] := by
  rcases h with rfl | ⟨d, rfl⟩
  · decide
  · revert d
    decide

namespace Tree

/-- The text of the tree is read as the tree, whatever stands behind it. -/
def ReadsBack (t : Tree) : Prop :=
  ∀ fuel rest, t.render.length < fuel → Stops rest →
    readValue fuel (t.render ++ rest) = some (t, rest)

/-- The text of a tree begins with no blank, and not as an array ends. -/
theorem exists_render_eq_cons (t : Tree) :
    ∃ c cs, t.render = c :: cs ∧ isBlank c = false ∧ c ≠ ']' := by
  cases t with
  | null => exact ⟨_, _, rfl, rfl, by decide⟩
  | bool b => cases b <;> exact ⟨_, _, rfl, rfl, by decide⟩
  | number n =>
    obtain ⟨c, cs, written, first⟩ := n.exists_render_eq_cons
    obtain ⟨seen, other⟩ := other_of_numeral first
    exact ⟨c, cs, written, seen, List.ne_of_not_mem_cons other⟩
  | text s => exact ⟨_, _, rfl, rfl, by decide⟩
  | broken => exact ⟨_, _, rfl, rfl, by decide⟩
  | array items => exact ⟨_, _, rfl, rfl, by decide⟩
  | object fields => exact ⟨_, _, rfl, rfl, by decide⟩

theorem skip_render (t : Tree) (cs : List Char) : skip (t.render ++ cs) = t.render ++ cs := by
  obtain ⟨c, cs', written, seen, -⟩ := t.exists_render_eq_cons
  rw [written, List.cons_append, skip_cons seen]

theorem render_append_ne (t : Tree) (cs rest : List Char) : t.render ++ cs ≠ ']' :: rest := by
  obtain ⟨c, cs', written, -, other⟩ := t.exists_render_eq_cons
  rw [written, List.cons_append]
  intro same
  exact other (List.cons.inj same).1

end Tree

section

variable {fuel : Nat} {cs cs' rest : List Char} {t : Tree} {name : String}

theorem readValue_number {n : Numeral} {c : Char} (first : c = '-' ∨ ∃ d, c = Numeral.digitChar d)
    (h : Numeral.read (c :: cs) = some (n, rest)) :
    readValue (fuel + 1) (c :: cs) = some (.number n, rest) := by
  obtain ⟨seen, other⟩ := other_of_numeral first
  simp only [List.mem_cons, List.not_mem_nil, or_false, not_or] at other
  simp [readValue, skip_cons seen, other, h]

theorem readValue_array {items : List Tree} (tight : skip cs = cs)
    (filled : ∀ rest, cs ≠ ']' :: rest) (h : readItems fuel cs = some (items, rest)) :
    readValue (fuel + 1) ('[' :: cs) = some (.array items, rest) := by
  rw [readValue, skip_cons rfl]
  simp only [tight, h]
  rfl

theorem readValue_object {fields : List (Option String × Tree)}
    (h : readFields fuel ('"' :: cs) = some (fields, rest)) :
    readValue (fuel + 1) ('{' :: '"' :: cs) = some (Tree.ofFields fields, rest) := by
  rw [readValue, skip_cons rfl]
  simp [skip_cons, isBlank, h]

theorem readItems_last (h : readValue fuel cs = some (t, ']' :: rest)) :
    readItems (fuel + 1) cs = some ([t], rest) := by
  rw [readItems, h]
  rfl

theorem readItems_cons {ts : List Tree} (h : readValue fuel cs = some (t, ',' :: cs'))
    (h' : readItems fuel cs' = some (ts, rest)) :
    readItems (fuel + 1) cs = some (t :: ts, rest) := by
  rw [readItems, h]
  simp [skip_cons, isBlank, h']

theorem readFields_last (h : readValue fuel cs = some (t, '}' :: rest)) :
    readFields (fuel + 1) (quote name.toList ++ ':' :: cs) = some ([(some name, t)], rest) := by
  rw [readFields, quote_eq, skip_cons rfl]
  simp [readString_flatMap, skip_cons, isBlank, h]

theorem readFields_cons {fields : List (Option String × Tree)}
    (h : readValue fuel cs = some (t, ',' :: cs'))
    (h' : readFields fuel cs' = some (fields, rest)) :
    readFields (fuel + 1) (quote name.toList ++ ':' :: cs) =
      some ((some name, t) :: fields, rest) := by
  rw [readFields, quote_eq, skip_cons rfl]
  simp [readString_flatMap, skip_cons, isBlank, h, h']

end

namespace Tree

theorem renderItems_cons (t u : Tree) (ts : List Tree) :
    renderItems (t :: u :: ts) = t.render ++ ',' :: renderItems (u :: ts) := by
  rw [renderItems]
  exact List.cons_ne_nil u ts

theorem renderFields_single (f : String × Tree) :
    renderFields [f] = quote f.1.toList ++ ':' :: f.2.render := rfl

theorem renderFields_cons (f g : String × Tree) (fields : List (String × Tree)) :
    renderFields (f :: g :: fields) =
      quote f.1.toList ++ ':' :: f.2.render ++ ',' :: renderFields (g :: fields) := by
  rw [renderFields]
  exact List.cons_ne_nil g fields

theorem exists_renderItems_eq_append (t : Tree) (ts : List Tree) :
    ∃ cs, renderItems (t :: ts) = t.render ++ cs := by
  cases ts with
  | nil => exact ⟨[], (List.append_nil _).symm⟩
  | cons u us => exact ⟨_, renderItems_cons t u us⟩

theorem exists_renderFields_eq_cons (f : String × Tree) (fields : List (String × Tree)) :
    ∃ cs, renderFields (f :: fields) = '"' :: cs := by
  cases fields with
  | nil => exact ⟨_, rfl⟩
  | cons g gs => exact ⟨_, renderFields_cons f g gs⟩

theorem readItems_renderItems {t : Tree} {ts : List Tree} (h : ∀ u ∈ t :: ts, u.ReadsBack)
    (fuel : Nat) (enough : (renderItems (t :: ts)).length + 1 < fuel) (rest : List Char) :
    readItems fuel (renderItems (t :: ts) ++ ']' :: rest) = some (t :: ts, rest) := by
  induction ts generalizing t fuel with
  | nil =>
    obtain ⟨fuel, rfl⟩ : ∃ k, fuel = k + 1 := ⟨fuel - 1, by omega⟩
    rw [renderItems] at enough ⊢
    exact readItems_last (h t List.mem_cons_self fuel _ (by omega) (.cons (by decide) rest))
  | cons u us ih =>
    obtain ⟨fuel, rfl⟩ : ∃ k, fuel = k + 1 := ⟨fuel - 1, by omega⟩
    rw [renderItems_cons, List.length_append, List.length_cons] at enough
    rw [renderItems_cons, List.append_assoc, List.cons_append]
    have others := ih (fun v hv => h v (List.mem_cons_of_mem t hv)) fuel (by omega)
    exact readItems_cons (h t List.mem_cons_self fuel _ (by omega) (.cons (by decide) _)) others

theorem readFields_renderFields {field : String × Tree} {fields : List (String × Tree)}
    (h : ∀ f ∈ field :: fields, f.2.ReadsBack) (fuel : Nat)
    (enough : (renderFields (field :: fields)).length + 1 < fuel) (rest : List Char) :
    readFields fuel (renderFields (field :: fields) ++ '}' :: rest) =
      some ((field :: fields).map fun f => (some f.1, f.2), rest) := by
  induction fields generalizing field fuel with
  | nil =>
    obtain ⟨fuel, rfl⟩ : ∃ k, fuel = k + 1 := ⟨fuel - 1, by omega⟩
    rw [renderFields_single, List.length_append, List.length_cons] at enough
    rw [renderFields_single, List.append_assoc, List.cons_append]
    exact readFields_last (h field List.mem_cons_self fuel _ (by omega) (.cons (by decide) rest))
  | cons next fields ih =>
    obtain ⟨fuel, rfl⟩ : ∃ k, fuel = k + 1 := ⟨fuel - 1, by omega⟩
    rw [renderFields_cons] at enough ⊢
    simp only [List.length_append, List.length_cons] at enough
    simp only [List.append_assoc, List.cons_append]
    have others := ih (fun f hf => h f (List.mem_cons_of_mem field hf)) fuel (by omega)
    exact readFields_cons (h field List.mem_cons_self fuel _ (by omega) (.cons (by decide) _)) others

theorem ofFields_map (fields : List (String × Tree)) :
    Tree.ofFields (fields.map fun f => (some f.1, f.2)) = .object fields := by
  have whole : (fields.map fun f => (some f.1, f.2)).mapM (fun f => f.1.map (·, f.2)) =
      some fields := by
    induction fields with
    | nil => rfl
    | cons f fields ih => simp_all
  rw [ofFields, whole]

theorem ReadsBack.array {items : List Tree} (h : ∀ t ∈ items, t.ReadsBack) :
    (Tree.array items).ReadsBack := by
  intro fuel rest enough _
  obtain ⟨fuel, rfl⟩ : ∃ k, fuel = k + 1 := ⟨fuel - 1, by omega⟩
  cases items with
  | nil => rfl
  | cons t ts =>
    simp only [render, List.length_append, List.length_cons, List.length_nil] at enough
    have inner := readItems_renderItems h fuel (by omega) rest
    obtain ⟨tail, first⟩ := exists_renderItems_eq_append t ts
    have tight : skip (renderItems (t :: ts) ++ ']' :: rest) =
        renderItems (t :: ts) ++ ']' :: rest := by
      rw [first, List.append_assoc, skip_render]
    have filled (rest' : List Char) : renderItems (t :: ts) ++ ']' :: rest ≠ ']' :: rest' := by
      rw [first, List.append_assoc]
      exact render_append_ne t _ rest'
    simp only [render, List.cons_append, List.append_assoc, List.nil_append]
    exact readValue_array tight filled inner

theorem ReadsBack.object {fields : List (String × Tree)} (h : ∀ f ∈ fields, f.2.ReadsBack) :
    (Tree.object fields).ReadsBack := by
  intro fuel rest enough _
  obtain ⟨fuel, rfl⟩ : ∃ k, fuel = k + 1 := ⟨fuel - 1, by omega⟩
  cases fields with
  | nil => rfl
  | cons field fields =>
    simp only [render, List.length_append, List.length_cons, List.length_nil] at enough
    have inner := readFields_renderFields h fuel (by omega) rest
    obtain ⟨tail, first⟩ := exists_renderFields_eq_cons field fields
    simp only [render, List.cons_append, List.append_assoc, List.nil_append]
    rw [first, List.cons_append] at inner ⊢
    rw [readValue_object inner, ofFields_map]

theorem ReadsBack.scalar {t : Tree} (h : ∀ fuel rest, Stops rest →
    readValue (fuel + 1) (t.render ++ rest) = some (t, rest)) : t.ReadsBack := by
  intro fuel rest enough stops
  obtain ⟨fuel, rfl⟩ : ∃ k, fuel = k + 1 := ⟨fuel - 1, by omega⟩
  exact h fuel rest stops

theorem ReadsBack.number (n : Numeral) : (Tree.number n).ReadsBack := by
  refine .scalar fun fuel rest stops => ?_
  obtain ⟨c, cs, written, first⟩ := n.exists_render_eq_cons
  have back := n.read_append stops
  rw [render, written, List.cons_append] at *
  exact readValue_number first back

theorem ReadsBack.text (s : String) : (Tree.text s).ReadsBack := by
  refine .scalar fun fuel rest _ => ?_
  rw [render, quote_eq, readValue, skip_cons rfl]
  simp [readString_flatMap, ofContent]

theorem sizeOf_lt_of_mem {f : String × Tree} {fields : List (String × Tree)} (h : f ∈ fields) :
    sizeOf f.2 < sizeOf fields := by
  have whole := List.sizeOf_lt_of_mem h
  obtain ⟨name, t⟩ := f
  rw [Prod.mk.sizeOf_spec] at whole
  show sizeOf t < sizeOf fields
  omega

theorem readsBack : (t : Tree) → t.ReadsBack
  | .null => .scalar fun _ _ _ => rfl
  | .bool true => .scalar fun _ _ _ => rfl
  | .bool false => .scalar fun _ _ _ => rfl
  | .number n => .number n
  | .text s => .text s
  | .broken => .scalar fun _ _ _ => rfl
  | .array items => .array fun t _ => readsBack t
  | .object fields => .object fun f h => by
    have smaller := sizeOf_lt_of_mem h
    exact readsBack f.2

theorem parse?_render (t : Tree) : parse? t.render = some t := by
  have whole := t.readsBack (t.render.length + 1) [] (Nat.lt_succ_self _) .nil
  rw [List.append_nil] at whole
  rw [parse?, whole]
  rfl

/-- Every document is read back from its text. -/
theorem ofText?_toText (t : Tree) : ofText? t.toText = some t := by
  rw [ofText?, toText, String.toList_ofList, parse?_render]

end Tree

end Json
end Ambient
