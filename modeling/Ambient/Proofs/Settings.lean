import Ambient.Config

namespace Ambient

namespace Text

/-- The text is a name in some case of its ASCII letters, with blanks around it. -/
def Spells (name s : String) : Prop :=
  ∃ a cs b, isBlankText a ∧ isBlankText b ∧ lower cs = lower name.toList ∧ s.toList = a ++ cs ++ b

theorem isBlank_toLower (c : Char) : isBlank c.toLower = isBlank c := by
  by_cases ascii : c.toNat < 0x80
  · revert c
    apply ascii_of_table
    decide +kernel
  · have stays : c.toLower = c := by
      apply dif_neg
      intro upper
      exact ascii (Nat.lt_of_le_of_lt (UInt32.le_iff_toNat_le.1 upper.2) (by decide))
    rw [stays]

theorem Spells.lower_trim {name s : String} (h : Spells name s)
    (seen : name.toList.any isBlank = false) :
    lower (trim s.toList) = lower name.toList := by
  obtain ⟨a, cs, b, ha, hb, letters, split⟩ := h
  have visible : ∀ c ∈ cs, isBlank c = false := by
    intro c hc
    have lowered : c.toLower ∈ lower name.toList := letters ▸ List.mem_map_of_mem hc
    obtain ⟨d, hd, same⟩ := List.mem_map.1 lowered
    rw [← isBlank_toLower, ← same, isBlank_toLower]
    exact Bool.eq_false_iff.2 (List.any_eq_false.1 seen d hd)
  rw [split, trim_padded ha hb, trim_of_forall_not_blank visible, letters]

end Text

namespace Strategy

def names : Strategy → List String
  | threadLocal => ["thread_local", "threadlocal", "threadlocal_context"]
  | taskLocal => ["task_local", "tasklocal", "contextvars_context"]

theorem not_mem_names_taskLocal {s : String} (h : s ∈ threadLocal.names) : s ∉ taskLocal.names := by
  have disjoint : ∀ s ∈ threadLocal.names, s ∉ taskLocal.names := by decide
  exact disjoint s h

theorem mem_map_toList_iff {cs : List Char} {words : List String} :
    cs ∈ words.map String.toList ↔ String.ofList cs ∈ words := by
  constructor
  · intro h
    obtain ⟨word, hword, rfl⟩ := List.mem_map.1 h
    rwa [String.ofList_toList]
  · intro h
    exact List.mem_map.2 ⟨_, h, String.toList_ofList⟩

theorem ofName?_eq_some_iff {cs : List Char} {strategy : Strategy} :
    ofName? cs = some strategy ↔ String.ofList cs ∈ strategy.names := by
  unfold ofName?
  split
  next h =>
    have thread : String.ofList cs ∈ threadLocal.names := mem_map_toList_iff.1 h
    cases strategy with
    | threadLocal => exact iff_of_true rfl thread
    | taskLocal => exact iff_of_false (by simp) (not_mem_names_taskLocal thread)
  next h =>
    have noThread : String.ofList cs ∉ threadLocal.names := mt mem_map_toList_iff.2 h
    split
    next h =>
      have task : String.ofList cs ∈ taskLocal.names := mem_map_toList_iff.1 h
      cases strategy with
      | threadLocal => exact iff_of_false (by simp) noThread
      | taskLocal => exact iff_of_true rfl task
    next h =>
      have noTask : String.ofList cs ∉ taskLocal.names := mt mem_map_toList_iff.2 h
      cases strategy with
      | threadLocal => exact iff_of_false (by simp) noThread
      | taskLocal => exact iff_of_false (by simp) noTask

theorem parse_eq_ok_iff {s : String} {strategy : Strategy} :
    parse s = .ok strategy ↔
      String.ofList (Text.lower (Text.trim s.toList)) ∈ strategy.names := by
  rw [← ofName?_eq_some_iff, parse]
  split
  next found => simp [found]
  next found => simp [found]

/-- A text is refused where no strategy has its name, and the error repeats the whole text. -/
theorem parse_eq_error_iff {s : String} {e : ContextError} :
    parse s = .error e ↔
      (∀ strategy : Strategy,
        String.ofList (Text.lower (Text.trim s.toList)) ∉ strategy.names) ∧
      .unknownStrategy s = e := by
  simp only [← ofName?_eq_some_iff, parse]
  split
  next found => simp [found]
  next found => simp [found]

theorem parse_of_spells {name s : String} {strategy : Strategy} (h : name ∈ strategy.names)
    (spelled : Text.Spells name s) : parse s = .ok strategy := by
  have plain : ∀ strategy : Strategy, ∀ name ∈ strategy.names,
      String.ofList (Text.lower name.toList) = name ∧
        name.toList.any Text.isBlank = false := by
    intro strategy
    cases strategy <;> decide
  obtain ⟨lowered, seen⟩ := plain strategy name h
  rw [parse_eq_ok_iff, spelled.lower_trim seen, lowered]
  exact h

end Strategy

theorem LogFormat.ofSetting_of_spells {format : LogFormat} {s : String}
    (spelled : Text.Spells format.name s) : ofSetting s = format := by
  have seen : format.name.toList.any Text.isBlank = false := by
    cases format <;> decide
  rw [ofSetting, Text.sameLetters, spelled.lower_trim seen]
  cases format <;> decide

namespace ContextConfig

variable {lookup : String → Option String} {name s : String}

def Unset (lookup : String → Option String) (name : String) : Prop :=
  ∀ s, lookup name = some s → Text.trim s.toList = []

/-- What a variable holds, if it is not blank. -/
def given (lookup : String → Option String) (name : String) : Option String :=
  (lookup name).filter fun s => !Text.isBlankText s.toList

theorem given_of_unset (h : Unset lookup name) : given lookup name = none := by
  rw [given, Option.filter_eq_none_iff]
  intro s found
  simp [Text.trim_eq_nil_iff.1 (h s found)]

theorem given_of_found (found : lookup name = some s) (seen : Text.trim s.toList ≠ []) :
    given lookup name = some s := by
  rw [given, Option.filter_eq_some_iff]
  simpa [found] using mt Text.trim_eq_nil_iff.2 seen

theorem unset_or_found (lookup : String → Option String) (name : String) :
    Unset lookup name ∨ ∃ s, lookup name = some s ∧ Text.trim s.toList ≠ [] := by
  by_cases h : ∃ s, lookup name = some s ∧ Text.trim s.toList ≠ []
  · exact Or.inr h
  · apply Or.inl
    intro s found
    exact Decidable.byContradiction fun seen => h ⟨s, found, seen⟩

def loggingOf (lookup : String → Option String) : LoggingConfig where
  filter := (given lookup filterVariable).getD (default : LoggingConfig).filter
  format := match lookup formatVariable with
    | some s => LogFormat.ofSetting s
    | none => default

theorem ofLookup_of_unset (h : Unset lookup strategyVariable) :
    ofLookup lookup = .ok ⟨default, loggingOf lookup⟩ := by
  have none_given := given_of_unset h
  rw [given] at none_given
  simp only [ofLookup, none_given]
  rfl

theorem ofLookup_of_found (found : lookup strategyVariable = some s)
    (seen : Text.trim s.toList ≠ []) :
    ofLookup lookup = (Strategy.parse s).map fun strategy => ⟨strategy, loggingOf lookup⟩ := by
  have some_given := given_of_found found seen
  rw [given] at some_given
  simp only [ofLookup, some_given]
  rfl

theorem ofLookup_eq_error_iff {e : ContextError} :
    ofLookup lookup = .error e ↔
      ∃ s, lookup strategyVariable = some s ∧ Text.trim s.toList ≠ [] ∧
        (∀ strategy : Strategy,
          String.ofList (Text.lower (Text.trim s.toList)) ∉ strategy.names) ∧
        .unknownStrategy s = e := by
  rcases unset_or_found lookup strategyVariable with unset | ⟨s, found, seen⟩
  · rw [ofLookup_of_unset unset]
    apply iff_of_false (by simp)
    rintro ⟨s, found, seen, -⟩
    exact seen (unset s found)
  · have passed : ofLookup lookup = .error e ↔ Strategy.parse s = .error e := by
      rw [ofLookup_of_found found seen]
      cases Strategy.parse s <;> simp [Except.map]
    rw [passed, Strategy.parse_eq_error_iff]
    simp [found, seen]

/-- Every configuration with a visible filter has environments that ask for it. -/
theorem ofLookup_of_spells {config : ContextConfig} {format : String}
    (strategy_found : lookup strategyVariable = some s) (hname : name ∈ config.strategy.names)
    (strategy_spelled : Text.Spells name s)
    (filter_found : lookup filterVariable = some config.logging.filter)
    (filter_seen : Text.trim config.logging.filter.toList ≠ [])
    (format_found : lookup formatVariable = some format)
    (format_spelled : Text.Spells config.logging.format.name format) :
    ofLookup lookup = .ok config := by
  have parsed : Strategy.parse s = .ok config.strategy :=
    Strategy.parse_of_spells hname strategy_spelled
  have seen : Text.trim s.toList ≠ [] := by
    intro blank
    have lowered := Strategy.parse_eq_ok_iff.1 parsed
    rw [blank] at lowered
    revert lowered
    cases config.strategy <;> decide
  have logging : loggingOf lookup = config.logging := by
    rw [loggingOf, given_of_found filter_found filter_seen, format_found]
    simp only [LogFormat.ofSetting_of_spells format_spelled]
    rfl
  rw [ofLookup_of_found strategy_found seen, parsed, logging]
  rfl

theorem filter_of_unset (unset : Unset lookup filterVariable) {config : ContextConfig}
    (loaded : ofLookup lookup = .ok config) :
    config.logging.filter = (default : ContextConfig).logging.filter := by
  have usual : (loggingOf lookup).filter = (default : ContextConfig).logging.filter := by
    rw [loggingOf, given_of_unset unset]
    rfl
  rcases unset_or_found lookup strategyVariable with unset | ⟨s, found, seen⟩
  · rw [ofLookup_of_unset unset] at loaded
    cases loaded
    exact usual
  · rw [ofLookup_of_found found seen] at loaded
    cases parsed : Strategy.parse s with
    | error e =>
      rw [parsed] at loaded
      cases loaded
    | ok strategy =>
      rw [parsed] at loaded
      cases loaded
      exact usual

/-- An environment fails exactly where it names a strategy that there is not, and the error repeats
that text. Every configuration with a visible filter is loaded from its own names, in any letter case
and with any padding, and its filter. What is unset or blank has its default. -/
theorem ofLookup_settings (lookup : String → Option String) :
    (∀ e, ofLookup lookup = .error e ↔
      ∃ s, lookup strategyVariable = some s ∧ Text.trim s.toList ≠ [] ∧
        (∀ strategy : Strategy,
          String.ofList (Text.lower (Text.trim s.toList)) ∉ strategy.names) ∧
        .unknownStrategy s = e) ∧
    (∀ config : ContextConfig, Text.trim config.logging.filter.toList ≠ [] →
      (∃ name ∈ config.strategy.names,
        ∃ s, Text.Spells name s ∧ lookup strategyVariable = some s) →
      lookup filterVariable = some config.logging.filter →
      (∃ s, Text.Spells config.logging.format.name s ∧ lookup formatVariable = some s) →
      ofLookup lookup = .ok config) ∧
    (Unset lookup strategyVariable →
      ∃ logging, ofLookup lookup = .ok ⟨(default : ContextConfig).strategy, logging⟩) ∧
    (Unset lookup filterVariable → ∀ config, ofLookup lookup = .ok config →
      config.logging.filter = (default : ContextConfig).logging.filter) := by
  refine ⟨fun e => ofLookup_eq_error_iff, ?_, ?_, ?_⟩
  · rintro config seen ⟨name, hname, s, spelled, found⟩ filter ⟨format, format_spelled, format_found⟩
    exact ofLookup_of_spells found hname spelled filter seen format_found format_spelled
  · intro unset
    exact ⟨loggingOf lookup, ofLookup_of_unset unset⟩
  · intro unset config loaded
    exact filter_of_unset unset loaded

theorem ofLookup_settings_padded :
    let asked (name : String) : Option String :=
      if name = strategyVariable then some "\tContextVars_Context "
      else if name = filterVariable then some " a=trace"
      else some "JSON\n"
    let refused (name : String) : Option String :=
      if name = strategyVariable then some " Fibers " else some " json"
    let blank (name : String) : Option String :=
      if name = strategyVariable then some " \n" else none
    ofLookup asked = .ok ⟨.taskLocal, ⟨" a=trace", .json⟩⟩ ∧
      ofLookup refused = .error (.unknownStrategy " Fibers ") ∧
      ∃ logging, ofLookup blank = .ok ⟨.taskLocal, logging⟩ ∧ logging.filter = "info" := by
  intro asked refused blank
  have spelled : Text.Spells "contextvars_context" "\tContextVars_Context " :=
    ⟨"\t".toList, "ContextVars_Context".toList, " ".toList, by decide, by decide, by decide,
      by decide⟩
  have format_spelled : Text.Spells "json" "JSON\n" :=
    ⟨[], "JSON".toList, "\n".toList, by decide, by decide, by decide, by decide⟩
  obtain ⟨-, loaded, -, -⟩ := ofLookup_settings asked
  obtain ⟨failed, -, -, -⟩ := ofLookup_settings refused
  obtain ⟨-, -, usual, filter⟩ := ofLookup_settings blank
  have strategy_unset : Unset blank strategyVariable := by
    intro s found
    cases found
    decide
  have filter_unset : Unset blank filterVariable := by
    intro s found
    cases found
  obtain ⟨logging, ok⟩ := usual strategy_unset
  refine ⟨?_, ?_, logging, ok, filter filter_unset _ ok⟩
  · apply loaded ⟨.taskLocal, ⟨" a=trace", .json⟩⟩ (by decide)
    · exact ⟨_, by decide, _, spelled, rfl⟩
    · rfl
    · exact ⟨_, format_spelled, rfl⟩
  · apply (failed _).2
    refine ⟨" Fibers ", rfl, by decide, ?_, rfl⟩
    intro strategy
    cases strategy <;> decide

end ContextConfig
end Ambient
