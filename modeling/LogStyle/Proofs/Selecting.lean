import LogStyle.Proofs.Cores
import LogStyle.Proofs.Recheck
import LogStyle.Proofs.Sources

/-!
# Judging by some rules only

Rules do not depend on each other. A check that is asked for some rules finds what a check by all
rules finds of these, whatever the configuration says about which rules are on.

* `Selection.isNamed`: whether some part of a filter names a rule.
* `Selection.mem_kinds`: a filter asks for the rules that its parts name.
* `Config.allOn`: the same configuration with every rule on.
* `Engine.check_filter`: an engine with some of the rules finds the violations of these rules.
* `Check.restrict_selects`: **a filter fails exactly if it names no rule. Otherwise what is found
  are the violations of the rules that it names, of all that every rule finds.**
-/

namespace LogStyle

/-! ## Names and codes -/

namespace RuleKind

variable {a b kind : RuleKind} {text : String}

/-- A text is the name of a rule, or its code in any case. -/
def Known (kind : RuleKind) (text : String) : Prop :=
  kind.name = text ∨ Text.lowercase kind.code = Text.lowercase text

theorem eq_of_name (h : a.name = b.name) : a = b := by
  cases a <;> cases b <;> first | rfl | simp [name] at h

theorem eq_of_lowercase_code (h : Text.lowercase a.code = Text.lowercase b.code) : a = b := by
  revert h
  cases a <;> cases b <;> decide

theorem lowercase_name_ne_code (a b : RuleKind) :
    Text.lowercase a.name ≠ Text.lowercase b.code := by
  cases a <;> cases b <;> decide

/-- **A text belongs to one rule at most.** No name is a code. -/
theorem Known.unique (ha : a.Known text) (hb : b.Known text) : a = b := by
  rcases ha with ha | ha <;> rcases hb with hb | hb
  · exact eq_of_name (ha.trans hb.symm)
  · exact absurd (congrArg Text.lowercase ha |>.trans hb.symm) (lowercase_name_ne_code a b)
  · exact absurd (congrArg Text.lowercase hb |>.trans ha.symm) (lowercase_name_ne_code b a)
  · exact eq_of_lowercase_code (ha.trans hb.symm)

theorem Known.ne_empty (h : kind.Known text) : text ≠ "" := by
  rintro rfl
  revert h
  cases kind <;> (unfold Known; decide)

theorem mem_all (kind : RuleKind) : kind ∈ all := by
  cases kind <;> decide

theorem find?_eq_some_iff : find? text = some kind ↔ kind.Known text := by
  have hknown : ∀ {k : RuleKind}, find? text = some k → k.Known text := by
    intro k h
    simpa [Known] using List.find?_some h
  constructor
  · exact hknown
  · intro h
    cases hfind : find? text with
    | none =>
      have hno := List.find?_eq_none.1 hfind kind (mem_all kind)
      exact absurd h (by simpa [Known] using hno)
    | some other => rw [(hknown hfind).unique h]

end RuleKind

/-! ## What a filter asks for -/

namespace Selection

variable {filter : String} {kind : RuleKind}

/-- Whether some part of a filter, blanks around it aside, is the name of a rule or its code in any
case. -/
def isNamed (filter name code : String) : Bool :=
  (Text.splitString ',' filter).any fun part =>
    Text.trimString part = name || Text.lowercase (Text.trimString part) = Text.lowercase code

theorem isNamed_iff : isNamed filter kind.name kind.code = true ↔
    ∃ part ∈ Text.splitString ',' filter, kind.Known (Text.trimString part) := by
  simp only [isNamed, List.any_eq_true, Bool.or_eq_true, decide_eq_true_eq, RuleKind.Known]
  refine exists_congr fun part => and_congr_right fun _ => or_congr ?_ ?_
  · exact eq_comm
  · exact eq_comm

/-- **A filter asks for the rules that its parts name.** -/
theorem mem_kinds : kind ∈ kinds filter ↔ isNamed filter kind.name kind.code = true := by
  rw [isNamed_iff]
  simp only [kinds, parts, List.mem_filterMap, List.mem_filter, List.mem_map,
    RuleKind.find?_eq_some_iff]
  constructor
  · rintro ⟨_, ⟨⟨part, hpart, rfl⟩, -⟩, hknown⟩
    exact ⟨part, hpart, hknown⟩
  · rintro ⟨part, hpart, hknown⟩
    exact ⟨_, ⟨⟨part, hpart, rfl⟩, by simpa using hknown.ne_empty⟩, hknown⟩

theorem kinds_eq_nil : kinds filter = [] ↔
    ∀ kind : RuleKind, isNamed filter kind.name kind.code = false := by
  rw [List.eq_nil_iff_forall_not_mem]
  simp only [mem_kinds, Bool.not_eq_true]

end Selection

/-! ## Which rules are on -/

namespace Config

variable {config : Config} {kind : RuleKind}

/-- What is configured for a rule. -/
def ruleConfig (config : Config) (name : String) : RuleConfig := (config.rules.get? name).getD {}

theorem isEnabled_eq (config : Config) (name : String) :
    config.isEnabled name = (config.ruleConfig name).enabled.getD true := by
  unfold isEnabled ruleConfig
  cases config.rules.get? name <;> rfl

theorem severity?_eq (config : Config) (name : String) :
    config.severity? name = (config.ruleConfig name).severity := by
  unfold severity? ruleConfig
  cases config.rules.get? name <;> rfl

theorem ruleConfig_setEnabled (config : Config) (name name' : String) (enabled : Bool) :
    (config.setEnabled name enabled).ruleConfig name' =
      if name' = name then { config.ruleConfig name with enabled := some enabled }
      else config.ruleConfig name' := by
  simp only [ruleConfig, setEnabled, Bindings.get?_insert]
  split <;> rfl

/-- Switching some rules on or off changes nothing else about them, and nothing about others. -/
theorem ruleConfig_foldl_setEnabled (p : RuleKind → Bool) (kinds : List RuleKind)
    (hnodup : kinds.Nodup) (config : Config) (kind : RuleKind) :
    (kinds.foldl (fun c k => c.setEnabled k.name (p k)) config).ruleConfig kind.name =
      if kind ∈ kinds then { config.ruleConfig kind.name with enabled := some (p kind) }
      else config.ruleConfig kind.name := by
  induction kinds generalizing config with
  | nil => simp
  | cons k kinds ih =>
    obtain ⟨hk, hrest⟩ := List.nodup_cons.1 hnodup
    rw [List.foldl_cons, ih hrest, ruleConfig_setEnabled]
    by_cases heq : kind = k
    · subst heq
      simp [hk]
    · have hname : kind.name ≠ k.name := fun h => heq (RuleKind.eq_of_name h)
      simp [hname, heq]

theorem ruleConfig_enableOnly (config : Config) (kinds : List RuleKind) (kind : RuleKind) :
    (config.enableOnly kinds).ruleConfig kind.name =
      { config.ruleConfig kind.name with enabled := some (kinds.contains kind) } := by
  rw [enableOnly, ruleConfig_foldl_setEnabled _ _ (by decide), if_pos (RuleKind.mem_all kind)]

theorem sensitivePatterns_enableOnly (config : Config) (kinds : List RuleKind) :
    (config.enableOnly kinds).sensitivePatterns = config.sensitivePatterns := by
  unfold enableOnly
  induction RuleKind.all generalizing config with
  | nil => rfl
  | cons k rest ih => exact ih _

/-- The same configuration with every rule on. -/
def allOn (config : Config) : Config :=
  { config with rules := config.rules.mapValues fun rule => { rule with enabled := some true } }

theorem isEnabled_enableOnly (config : Config) (kinds : List RuleKind) (kind : RuleKind) :
    (config.enableOnly kinds).isEnabled kind.name = kinds.contains kind := by
  rw [isEnabled_eq, ruleConfig_enableOnly]
  rfl

theorem severity?_enableOnly (config : Config) (kinds : List RuleKind) (kind : RuleKind) :
    (config.enableOnly kinds).severity? kind.name = config.severity? kind.name := by
  rw [severity?_eq, ruleConfig_enableOnly, severity?_eq]

theorem isEnabled_allOn (config : Config) (name : String) : config.allOn.isEnabled name = true := by
  unfold isEnabled allOn
  rw [Bindings.get?_mapValues]
  cases config.rules.get? name <;> rfl

theorem severity?_allOn (config : Config) (name : String) :
    config.allOn.severity? name = config.severity? name := by
  unfold severity? allOn
  rw [Bindings.get?_mapValues]
  cases config.rules.get? name <;> rfl

end Config

/-! ## Engines with some of the rules -/

namespace Engine

/-- **An engine with some of the rules finds the violations of these rules,** in the same order. -/
theorem check_filter {ρ : Type} [MessageRule ρ] {engine : Engine ρ} {p : ConfiguredRule ρ → Bool}
    {q : Violation → Bool} (h : ∀ configured ∈ engine.rules, ∀ file message finding replaceable,
      q (.ofFinding file message configured.rule configured.severity finding replaceable) =
        p configured) (unit : SourceUnit) (types : Resolver) :
    (Engine.mk (engine.rules.filter p)).check unit types =
      (engine.check unit types).filter q := by
  have hfragment : ∀ file message text index,
      (Engine.mk (engine.rules.filter p)).checkFragment file message text index =
        (engine.checkFragment file message text index).filter q := by
    intro file message text index
    rw [checkFragment, checkFragment, List.filterMap_filter, List.filter_filterMap]
    refine List.filterMap_congr fun configured hmem => ?_
    by_cases happlies : MessageRule.appliesTo configured.rule index = true
    · cases hcheck : MessageRule.check? configured.rule text index with
      | none => simp
      | some finding =>
        have hq := h configured hmem file message finding (Message.isReplaceable message)
        simp [happlies, Option.filter_some, hq]
    · simp [happlies]
  rw [check, check, List.filter_flatMap]
  refine List.flatMap_congr fun call _ => ?_
  unfold checkCall
  cases LoggingApi.resolve? types call with
  | none => rfl
  | some argument =>
    simp only [checkMessage, List.filter_flatMap, hfragment]

/-- The rules of a configuration are those with every rule on that it leaves on, if it agrees with
the other one on severities. -/
theorem ofRules_eq_filter {config full : Config} {rules : List Rule}
    (hfull : ∀ kind : RuleKind, full.isEnabled kind.name = true)
    (hseverity : ∀ kind : RuleKind, full.severity? kind.name = config.severity? kind.name) :
    ofRules config rules = ⟨(ofRules full rules).rules.filter fun configured =>
      config.isEnabled configured.rule.kind.name⟩ := by
  simp only [ofRules, Rule.name_eq, hfull, List.filter_true, List.filter_map, hseverity]
  rfl

end Engine

/-! ## Checks by some rules -/

namespace Check

variable {config : Config} {filter : String}

theorem result_restrict (config : Config) (filter : String) :
    (restrict config (some filter)).result.1 = config.select filter := by
  have hsaid := @Logged.gives_forM_say [] (Selection.unknown filter) .warn
    ("Unknown rule: " ++ ·) ()
  unfold Logged.Gives at hsaid
  unfold Logged.result restrict
  rw [Logged.run_bind]
  split
  · rfl
  · rename_i h
    rw [h] at hsaid
    cases hsaid

/-- A filter that names some rule leaves the rules on that it names. -/
theorem select_eq_ok (h : ∃ kind : RuleKind, Selection.isNamed filter kind.name kind.code = true) :
    config.select filter = .ok (config.enableOnly (Selection.kinds filter)) := by
  unfold Config.select
  split
  · rename_i hnil
    obtain ⟨kind, hkind⟩ := h
    rw [Selection.kinds_eq_nil.1 hnil kind] at hkind
    cases hkind
  · rfl

theorem select_eq_error : config.select filter = .error .noKnownRule ↔
    ∀ kind : RuleKind, Selection.isNamed filter kind.name kind.code = false := by
  rw [← Selection.kinds_eq_nil, Config.select]
  split
  · rename_i hnil
    simp [hnil]
  · rename_i hne
    simpa using hne

/-- **The rules that a filter names judge as they do among all rules.** -/
theorem check_enableOnly {patterns : List Sensitive.Pattern} (unit : SourceUnit)
    (types : Resolver) :
    (Engine.ofRules (config.enableOnly (Selection.kinds filter)) (Rule.all patterns)).check
        unit types =
      ((Engine.ofRules config.allOn (Rule.all patterns)).check unit types).filter fun v =>
        Selection.isNamed filter v.rule v.code := by
  have hseverity : ∀ kind : RuleKind, config.allOn.severity? kind.name =
      (config.enableOnly (Selection.kinds filter)).severity? kind.name := by
    intro kind
    rw [Config.severity?_allOn, Config.severity?_enableOnly]
  have hon : ∀ kind : RuleKind, Selection.isNamed filter kind.name kind.code =
      (config.enableOnly (Selection.kinds filter)).isEnabled kind.name := by
    intro kind
    rw [Config.isEnabled_enableOnly, Bool.eq_iff_iff, List.contains_iff_mem, Selection.mem_kinds]
  rw [Engine.ofRules_eq_filter (fun kind => config.isEnabled_allOn kind.name) hseverity]
  exact Engine.check_filter (fun configured _ _ _ _ _ => hon configured.rule.kind) unit types

/-- **A check by some rules only.** A filter fails exactly if none of its parts is the name or the
code of a rule. Otherwise what is found are, of all that every rule finds, the violations of the
rules that it names. Which rules the configuration has on does not matter, and its patterns fail as
they do with every rule, whatever texts are patterns. -/
theorem restrict_selects (regex? : String → Option Pattern.Regex) (config : Config)
    (patterns : List String) (filter : String) :
    ((restrict (config.addPatterns patterns) (some filter)).result.1 = .error .noKnownRule ↔
      ∀ kind : RuleKind, Selection.isNamed filter kind.name kind.code = false) ∧
    ((∃ kind : RuleKind, Selection.isNamed filter kind.name kind.code = true) →
      ∃ selected, (restrict (config.addPatterns patterns) (some filter)).result.1 = .ok selected ∧
        (∀ e, Engine.ofConfig regex? (config.addPatterns patterns).allOn = .error e →
          Engine.ofConfig regex? selected = .error e) ∧
        ∀ full, Engine.ofConfig regex? (config.addPatterns patterns).allOn = .ok full →
          ∃ engine, Engine.ofConfig regex? selected = .ok engine ∧
            ∀ unit types, engine.check unit types =
              (full.check unit types).filter fun v => Selection.isNamed filter v.rule v.code) := by
  rw [result_restrict]
  refine ⟨select_eq_error, fun hnamed => ⟨_, select_eq_ok hnamed, ?_⟩⟩
  rw [Engine.ofConfig_eq, Engine.ofConfig_eq, Config.sensitivePatterns_enableOnly, Config.allOn]
  cases Sensitive.compileWithBuiltins regex? (config.addPatterns patterns).sensitivePatterns with
  | error e =>
    refine ⟨fun _ h => h, fun full hfull => ?_⟩
    cases hfull
  | ok compiled =>
    constructor
    · intro e he
      cases he
    · intro full hfull
      obtain rfl := Except.ok.inj hfull
      exact ⟨_, rfl, check_enableOnly⟩

/-- A configuration in which a rule is off, and grave if it is on. -/
def englishOff : Config where
  rules := .ofList [("english-only", { enabled := some false, severity := some .error })]

/-- The text of a file with a message that breaks three rules. -/
def greeting : String :=
  "package main\nimport \"log/slog\"\nfunc main() \x7b slog.Info(\"Hello, мир!\") \x7d"

/-- The rule that is off is asked for by its code, beside a word that belongs to no rule. -/
theorem restrict_selects_englishOff : ∃ tree ∈ Go.Tree.ofSource? greeting, ∃ full selected engine,
    let file := Go.CheckedFile.ofTree "main.go" tree
    Engine.ofConfig Pattern.ofText? (englishOff.addPatterns []).allOn = .ok full ∧
    (full.check file.unit file.types.resolver).map (fun v => (v.rule, v.severity)) =
      [("lowercase-start", .warning), ("english-only", .error), ("no-special-chars", .warning)] ∧
    (restrict (englishOff.addPatterns []) (some "style, lm002 ,")).result.1 = .ok selected ∧
    Engine.ofConfig Pattern.ofText? selected = .ok engine ∧
    engine.check file.unit file.types.resolver =
      (full.check file.unit file.types.resolver).filter fun v =>
        Selection.isNamed "style, lm002 ," v.rule v.code := by
  let full := Engine.ofRules (englishOff.addPatterns []).allOn (Rule.all Sensitive.builtinPatterns)
  have hfull : Engine.ofConfig Pattern.ofText? (englishOff.addPatterns []).allOn = .ok full :=
    Engine.ofConfig_of_compile Sensitive.compile_builtins
  have hinput : ∃ tree ∈ Go.Tree.ofSource? greeting,
      let file := Go.CheckedFile.ofTree "main.go" tree
      (full.check file.unit file.types.resolver).map (fun v => (v.rule, v.severity)) =
        [("lowercase-start", .warning), ("english-only", .error),
          ("no-special-chars", .warning)] := by
    simp only [Go.Tree.ofSource?_eq]
    decide +kernel
  obtain ⟨tree, htree, hfound⟩ := hinput
  have hnamed : ∃ kind : RuleKind,
      Selection.isNamed "style, lm002 ," kind.name kind.code = true :=
    ⟨.englishOnly, by decide +kernel⟩
  obtain ⟨selected, hselected, -, hengine⟩ :=
    (restrict_selects Pattern.ofText? englishOff [] _).2 hnamed
  obtain ⟨engine, hengine, hcheck⟩ := hengine full hfull
  exact ⟨tree, htree, full, selected, engine, hfull, hfound, hselected, hengine, hcheck _ _⟩

end Check

end LogStyle
