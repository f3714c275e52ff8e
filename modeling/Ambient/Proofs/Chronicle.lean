import Mathlib.Data.List.Induction
import Ambient.Proofs.Repetition

namespace Ambient.Correlations

open Json (Value)

def Change.leaves (name : String) : Change → Option (Option Value)
  | .insert other v => if other = name then some (some v) else none
  | .remove other => if other = name then some none else none

/-- What the last change to a name has left there. -/
def latest (name : String) (history : List Change) : Option Value :=
  (history.reverse.findSome? (·.leaves name)).join

/-- The name that a change brought to stay: an insertion that found it absent, and that no removal
has undone since. -/
def Change.brings? (earlier later : List Change) : Change → Option String
  | .insert name _ =>
    if (latest name earlier).isNone ∧ later.all (!·.removes name) then some name else none
  | .remove _ => none

/-- The names that are there, in the order of the changes that brought them. -/
def standing (history : List Change) : List String :=
  (List.range history.length).filterMap fun i =>
    history[i]?.bind (·.brings? (history.take i) (history.drop (i + 1)))

def told (history : List Change) : Correlations :=
  ⟨(standing history).filterMap fun name => (latest name history).map (name, ·)⟩

def inserts (pairs : List (String × Value)) : List Change := pairs.map fun e => .insert e.1 e.2

/-- The history after an edit. To collect pairs is to begin anew with them. -/
def Edit.record (history : List Change) : Edit → List Change
  | .insert name v => history ++ [.insert name v]
  | .remove name => history ++ [.remove name]
  | .collect pairs => inserts pairs
  | .load _ | .get _ | .contains _ | .size | .names | .equals _ => history

def Edit.reply (history : List Change) : Edit → Answer
  | .collect _ | .load _ => .done
  | .insert name _ | .remove name | .get name => .value (latest name history)
  | .contains name => .flag (latest name history).isSome
  | .size => .size (standing history).length (standing history).isEmpty
  | .names => .names (standing history)
  | .equals pairs => .flag (told history == told (inserts pairs))

def retell (history : List Change) : List Edit → List (Edit.Answer × Correlations)
  | [] => []
  | e :: es => (e.reply history, told (e.record history)) :: retell (e.record history) es

variable {c : Correlations} {history : List Change} {name : String}

theorem latest_concat (name : String) (history : List Change) (x : Change) :
    latest name (history ++ [x]) = (x.leaves name).getD (latest name history) := by
  rw [latest, List.reverse_concat, List.findSome?_cons]
  cases x.leaves name with
  | none => rfl
  | some left => rfl

theorem brings?_concat (earlier later : List Change) (x last : Change) :
    x.brings? earlier (later ++ [last]) =
      (x.brings? earlier later).filter (!last.removes ·) := by
  cases x with
  | remove other => rfl
  | insert name v =>
    simp only [Change.brings?, List.all_append, List.all_cons, List.all_nil, Bool.and_true]
    by_cases brought : (latest name earlier).isNone ∧ later.all (!·.removes name)
    · simp [brought, Option.filter]
    · simp only [if_neg brought, Option.filter_none, ite_eq_right_iff, reduceCtorEq, imp_false]
      simp only [Bool.and_eq_true]
      tauto

theorem standing_concat (history : List Change) (x : Change) :
    standing (history ++ [x]) =
      (standing history).filter (!x.removes ·) ++ (x.brings? history []).toList := by
  have before : ∀ i ∈ List.range history.length,
      (history ++ [x])[i]?.bind
          (·.brings? ((history ++ [x]).take i) ((history ++ [x]).drop (i + 1))) =
        (history[i]?.bind (·.brings? (history.take i) (history.drop (i + 1)))).filter
          (!x.removes ·) := by
    intro i inside
    have inside : i < history.length := List.mem_range.1 inside
    rw [List.getElem?_append_left inside, List.take_append_of_le_length (Nat.le_of_lt inside),
      List.drop_append_of_le_length inside, List.getElem?_eq_getElem inside]
    exact brings?_concat _ _ _ _
  have last : (history ++ [x])[history.length]?.bind
      (·.brings? ((history ++ [x]).take history.length)
        ((history ++ [x]).drop (history.length + 1))) = x.brings? history [] := by
    simp
  rw [standing, List.length_append, List.length_singleton, List.range_succ, List.filterMap_append,
    List.filterMap_congr before, List.filterMap_cons, last, standing, List.filter_filterMap]
  cases x.brings? history [] with
  | none => rfl
  | some name => rfl

theorem get?_erase (distinct : c.names.Nodup) (name key : String) :
    (c.erase name).get? key = if name = key then none else c.get? key := by
  obtain ⟨entries⟩ := c
  induction entries with
  | nil => simp [erase, take, dropEntry, get?]
  | cons e rest ih =>
    obtain ⟨other, w⟩ := e
    obtain ⟨fresh, distinct⟩ := List.nodup_cons.1 distinct
    by_cases found : other = name
    · subst found
      have absent := (get?_eq_none_iff (c := ⟨rest⟩)).2 fresh
      have left : (⟨(other, w) :: rest⟩ : Correlations).erase other = ⟨rest⟩ := by
        simp only [erase, take, dropEntry, ↓reduceIte]
      rw [left, get?_cons]
      by_cases same : other = key
      · rw [if_pos same, ← same, absent]
      · rw [if_neg same, if_neg same]
    · have left : (⟨(other, w) :: rest⟩ : Correlations).erase name =
          ⟨(other, w) :: ((⟨rest⟩ : Correlations).erase name).entries⟩ := by
        simp only [erase, take, dropEntry, if_neg found]
      have later : (⟨((⟨rest⟩ : Correlations).erase name).entries⟩ : Correlations).get? key = _ :=
        ih distinct
      rw [left, get?_cons, get?_cons, later]
      by_cases same : other = key
      · subst same
        rw [if_pos rfl, if_pos rfl, if_neg (Ne.symm found)]
      · rw [if_neg same, if_neg same]

theorem changed_concat (c : Correlations) (history : List Change) (x : Change) :
    c.changed (history ++ [x]) = ((c.changed history).edit x.edit).2 := List.foldl_concat ..

theorem built_changed (history : List Change) : ((∅ : Correlations).changed history).Built := by
  induction history using List.reverseRecOn with
  | nil => exact .collect []
  | append_singleton history x ih =>
    rw [changed_concat]
    cases x with
    | insert name v => exact ih.insert name v
    | remove name => exact ih.erase name

theorem get?_changed (history : List Change) (name : String) :
    ((∅ : Correlations).changed history).get? name = latest name history := by
  induction history using List.reverseRecOn with
  | nil => rfl
  | append_singleton history x ih =>
    rw [changed_concat, latest_concat, ← ih]
    cases x with
    | insert other v =>
      refine (get?_insert _ other name v).trans ?_
      by_cases same : other = name <;> simp [Change.leaves, same]
    | remove other =>
      refine (get?_erase (built_changed history).nodup_names other name).trans ?_
      by_cases same : other = name <;> simp [Change.leaves, same]

theorem names_changed (history : List Change) :
    ((∅ : Correlations).changed history).names = standing history := by
  induction history using List.reverseRecOn with
  | nil => rfl
  | append_singleton history x ih =>
    rw [changed_concat, standing_concat, ← ih]
    cases x with
    | insert name v =>
      have all_stay : ((∅ : Correlations).changed history).names.filter
          (!(Change.insert name v).removes ·) = ((∅ : Correlations).changed history).names :=
        List.filter_true _
      have absent : (latest name history).isNone ↔
          name ∉ ((∅ : Correlations).changed history).names := by
        rw [← get?_changed, Option.isNone_iff_eq_none, get?_eq_none_iff]
      refine (names_insert _ name v).trans ?_
      rw [all_stay]
      by_cases known : name ∈ ((∅ : Correlations).changed history).names
      · simp [Change.brings?, absent, known]
      · simp [Change.brings?, absent, known]
    | remove name =>
      have distinct := (built_changed history).nodup_names
      have others (other : String) :
          (other != name) = !(Change.remove name).removes other := by
        rw [bne, BEq.comm]
        rfl
      refine (names_erase _ name).trans ?_
      rw [distinct.erase_eq_filter, Change.brings?, Option.toList_none, List.append_nil]
      exact List.filter_congr fun other _ => others other

theorem told_eq_changed (history : List Change) :
    told history = (∅ : Correlations).changed history := by
  have distinct := (built_changed history).nodup_names
  have entries := entries_eq_filterMap distinct
  simp only [get?_changed, names_changed] at entries
  rw [told, ← entries]

theorem changed_inserts (pairs : List (String × Value)) :
    (∅ : Correlations).changed (inserts pairs) = ofPairs pairs := List.foldl_map ..

theorem told_inserts (pairs : List (String × Value)) : told (inserts pairs) = ofPairs pairs := by
  rw [told_eq_changed, changed_inserts]

theorem get?_told (history : List Change) (name : String) :
    (told history).get? name = latest name history := by
  rw [told_eq_changed, get?_changed]

theorem names_told (history : List Change) : (told history).names = standing history := by
  rw [told_eq_changed, names_changed]

theorem told_concat (history : List Change) (x : Change) :
    told (history ++ [x]) = ((told history).edit x.edit).2 := by
  rw [told_eq_changed, told_eq_changed, changed_concat]

theorem edit_told (history : List Change) {e : Edit} (written : ∀ text, e ≠ .load text) :
    (told history).edit e = (e.reply history, told (e.record history)) := by
  cases e with
  | load text => exact absurd rfl (written text)
  | collect pairs => rw [Edit.record, told_inserts]; rfl
  | insert name v =>
    have old := (exchange_fst (told history) name v).trans (get?_told history name)
    rw [Edit.record, told_concat, Edit.reply, ← old]
    rfl
  | remove name =>
    have old := (take_fst (told history) name).trans (get?_told history name)
    rw [Edit.record, told_concat, Edit.reply, ← old]
    rfl
  | get name => rw [edit, get?_told]; rfl
  | contains name => rw [edit, contains, get?_told]; rfl
  | size =>
    have length : (told history).size = (standing history).length := by
      rw [← names_told, names, List.length_map]
      rfl
    have empty : (told history).isEmpty = (standing history).isEmpty := by
      rw [← names_told, names, List.isEmpty_map]
      rfl
    rw [edit, length, empty]
    rfl
  | names => rw [edit, names_told]; rfl
  | equals pairs => rw [edit, ← told_inserts]; rfl

/-- Everything that is answered while correlations that began empty are collected, edited and asked,
and everything that they hold meanwhile, is told by the history: the names that were inserted while
absent and not removed since, in the order in which that happened, each with the value that was
inserted last. -/
theorem editAll_eq_retell {edits : List Edit} (written : ∀ text, .load text ∉ edits) :
    (∅ : Correlations).editAll edits = retell [] edits := by
  have told_nothing : told [] = ∅ := rfl
  rw [← told_nothing]
  generalize ([] : List Change) = history
  induction edits generalizing history with
  | nil => rfl
  | cons e es ih =>
    have first : ∀ text, e ≠ .load text := by
      rintro text rfl
      exact written text List.mem_cons_self
    have later : ∀ text, Edit.load text ∉ es :=
      fun text h => written text (List.mem_cons_of_mem e h)
    rw [editAll, edit_told history first]
    exact congrArg (_ :: ·) (ih later _)

theorem editAll_eq_retell_reinserted :
    let edits : List Edit := [.insert "c" .null,
      .collect [("a", .null), ("b", .null), ("a", .bool true)], .insert "b" (.bool false),
      .remove "a", .insert "c" (.text "x"), .insert "a" (.text "y"), .remove "d", .names, .get "a",
      .contains "d", .size]
    (∀ text, Edit.load text ∉ edits) ∧
      ((∅ : Correlations).editAll edits).map (·.1) = [.value none, .done, .value (some .null),
        .value (some (.bool true)), .value none, .value none, .value none, .names ["b", "c", "a"],
        .value (some (.text "y")), .flag false, .size 3 false] := by
  intro edits
  have written : ∀ text, Edit.load text ∉ edits := by simp [edits]
  refine ⟨written, ?_⟩
  rw [editAll_eq_retell written]
  rfl

end Ambient.Correlations
