import LogStyle.Proofs.Interaction
import LogStyle.Proofs.Rewrites

/-!
# Correcting a message again and again

A correction may call for another one: without its exclamation marks a message may start with a
capital. This comes to an end, because each rule corrects a message at most once.

* `Site`: a logging call whose message is one literal, with whatever text.
* `Site.Run`: the corrections of a message, one after the other, each by the first violation that
  carries a replacement.
* `Spent`: what holds of a text once some rules have corrected it. Every further correction is by
  another rule and keeps it (`Spent.step`).
* `Site.run_converges`: **a run ends after at most three corrections**, and what is left cannot be
  corrected: letters of other alphabets, and messages that are nothing but decorations.
-/

namespace LogStyle

open Sensitive (builtinPatterns)

/-! ## Proposals -/

namespace Rule

variable {rule : Rule} {text fixed : String}

/-- The corrected text that a rule proposes for a text. -/
def proposal? (rule : Rule) (text : String) : Option String :=
  (rule.check? text).bind Finding.proposal?

theorem proposal?_eq_some : rule.proposal? text = some fixed ↔
    rule.Corrects text fixed ∧ fixed ≠ "" ∧ fixed ≠ text := by
  simp only [proposal?, Option.bind_eq_some_iff, Finding.proposal?_eq_some]
  constructor
  · rintro ⟨finding, hfinding, hfixed, hne, hch⟩
    have ht := text_of_check? hfinding
    refine ⟨?_, hne, ht ▸ hch⟩
    rw [Corrects, hfinding, ← ht, ← hfixed]
  · rintro ⟨h, hne, hch⟩
    exact ⟨_, h, rfl, hne, hch⟩

/-- A correction removes what the rule found, so that it changes the text. -/
theorem ne_of_corrects (hr : rule ∈ all builtinPatterns) (h : rule.Corrects text fixed) :
    fixed ≠ text := by
  rintro rfl
  have hf : rule.finds fixed = true := by rw [finds, h]; rfl
  rcases finds_of_correction hr hr h hf with ⟨-, hne⟩ | hexposes
  · exact hne rfl
  · cases hexposes

/-- A rule that finds something proposes a text, except for other alphabets and for messages that
are nothing but decorations. -/
theorem finds_without_proposal (hr : rule ∈ all builtinPatterns) (hf : rule.finds text = true)
    (hp : rule.proposal? text = none) :
    rule = englishOnly ∨ rule = noSpecialChars ∧ Special.strip text.toList = [] := by
  have hempty : ∀ cs, rule.Corrects text (String.ofList cs) → cs = [] := by
    intro cs h
    cases cs with
    | nil => rfl
    | cons c cs =>
      have hne : String.ofList (c :: cs) ≠ "" := fun he => by simp at he
      rw [proposal?_eq_some.2 ⟨h, hne, ne_of_corrects hr h⟩] at hp
      cases hp
  rcases mem_all.1 hr with rfl | rfl | rfl | rfl
  · cases hout : Lowercase.lowered? text.toList with
    | none => rw [finds_lowercaseStart.2 hout] at hf; cases hf
    | some out =>
      have hnil := hempty out (corrects_lowercaseStart.2 (by simpa using hout))
      obtain ⟨c, -, hv⟩ := Lowercase.visible?_lowered hout
      rw [hnil] at hv
      cases hv
  · exact Or.inl rfl
  · rw [finds_noSpecialChars] at hf
    exact Or.inr ⟨rfl, hempty _ (corrects_noSpecialChars.2 ⟨hf, String.toList_ofList⟩)⟩
  · rw [finds_noSensitiveData] at hf
    exact absurd (hempty _ (corrects_noSensitiveData.2 ⟨hf, String.toList_ofList⟩))
      (Sensitive.redact_ne_nil hf)

/-- The place of a rule in the order in which rules judge. -/
def rank : Rule → Nat
  | lowercaseStart => 0
  | englishOnly => 1
  | noSpecialChars => 2
  | noSensitiveData _ => 3

theorem pairwise_rank (patterns : List Sensitive.Pattern) :
    (all patterns).Pairwise (·.rank < ·.rank) := by
  simp [all, RuleKind.all, ofKind, rank]

end Rule

/-! ## Texts that rules have corrected -/

section

variable (rules : List Rule)

/-- The first of some rules with a proposal proposes a text. -/
def Proposes (rule : Rule) (text fixed : String) : Prop :=
  rule ∈ rules ∧ rule.proposal? text = some fixed ∧
    ∀ other ∈ rules, other.rank < rule.rank → other.proposal? text = none

/-- What holds of a text once some rules have corrected it: it starts with no capital, it has no
decorations, and after a redaction nothing is left to propose. -/
structure Spent (spent : List RuleKind) (text : String) : Prop where
  lowercase : .lowercaseStart ∈ spent →
    ∃ c, Special.isPlain c = true ∧ c.isUpper = false ∧ Text.visible? text.toList = some c
  plain : .noSpecialChars ∈ spent → Special.occurs text.toList = false
  redacted : .noSensitiveData ∈ spent → ∀ rule ∈ rules, rule.proposal? text = none

end

section

variable {rules : List Rule} {spent : List RuleKind} {rule : Rule} {text fixed : String}

namespace Spent

theorem notMem (hrules : rules ⊆ Rule.all builtinPatterns) (h : Spent rules spent text)
    (hp : Proposes rules rule text fixed) : rule.kind ∉ spent := by
  obtain ⟨hmem, hprop, -⟩ := hp
  have hc := (Rule.proposal?_eq_some.1 hprop).1
  intro hspent
  rcases Rule.mem_all.1 (hrules hmem) with rfl | rfl | rfl | rfl
  · obtain ⟨c, -, hup, hv⟩ := h.lowercase hspent
    have hnone := Lowercase.lowered?_eq_none.2 (by rw [hv]; exact hup)
    rw [Rule.corrects_lowercaseStart, hnone] at hc
    cases hc
  · exact Rule.not_corrects_englishOnly hc
  · have hoccurs := (Rule.corrects_noSpecialChars.1 hc).1
    rw [h.plain hspent] at hoccurs
    cases hoccurs
  · rw [h.redacted hspent _ hmem] at hprop
    cases hprop

theorem lowercaseStart (hl : Rule.lowercaseStart.Corrects text fixed) (h : Spent rules spent text)
    (hred : .noSensitiveData ∉ spent) : Spent rules (.lowercaseStart :: spent) fixed := by
  rw [Rule.corrects_lowercaseStart] at hl
  refine ⟨fun _ => ?_, fun hs => ?_, fun hs => ?_⟩
  · obtain ⟨c, hc, hv⟩ := Lowercase.visible?_lowered hl
    exact ⟨c.toLower, Lowercase.isPlain_toLower hc, Lowercase.isUpper_toLower hc, hv⟩
  · rw [Lowercase.occurs_lowered hl]
    exact h.plain (by simpa using hs)
  · exact absurd (by simpa using hs) hred

theorem noSpecialChars (hs : Rule.noSpecialChars.Corrects text fixed) (h : Spent rules spent text)
    (hred : .noSensitiveData ∉ spent) : Spent rules (.noSpecialChars :: spent) fixed := by
  obtain ⟨-, hfixed⟩ := Rule.corrects_noSpecialChars.1 hs
  refine ⟨fun hl => ?_, fun _ => ?_, fun hs => ?_⟩
  · obtain ⟨c, hc, hup, hv⟩ := h.lowercase (by simpa using hl)
    exact ⟨c, hc, hup, hfixed ▸ Special.visible?_strip hc hv⟩
  · rw [hfixed]
    exact Special.not_occurs_strip text.toList
  · exact absurd (by simpa using hs) hred

/-- After a redaction nothing is left to propose: what another rule could propose it could have
proposed before, and would have come first. -/
theorem noSensitiveData (hrules : rules ⊆ Rule.all builtinPatterns)
    (hp : Proposes rules (.noSensitiveData builtinPatterns) text fixed) (h : Spent rules spent text) :
    Spent rules (.noSensitiveData :: spent) fixed := by
  obtain ⟨hmem, hprop, hfirst⟩ := hp
  have hcorr := (Rule.proposal?_eq_some.1 hprop).1
  obtain ⟨hoccurs, hfixed⟩ := Rule.corrects_noSensitiveData.1 hcorr
  refine ⟨fun hl => ?_, fun hs => ?_, fun _ other ho => ?_⟩
  · rw [hfixed]
    refine Sensitive.redact_preserves (P := fun t => ∃ c, Special.isPlain c = true ∧
      c.isUpper = false ∧ Text.visible? t = some c) (fun _ _ t out hr ht => ?_)
      (h.lowercase (by simpa using hl))
    rcases hr.visible? with hv | hv
    · rwa [hv]
    · exact ⟨'[', by decide, by decide, hv⟩
  · rw [hfixed]
    exact Sensitive.occurs_redact (h.plain (by simpa using hs))
  · rw [Option.eq_none_iff_forall_ne_some]
    intro next hnext
    have hnext := (Rule.proposal?_eq_some.1 hnext).1
    have hf : other.finds fixed = true := by rw [Rule.finds, hnext]; rfl
    -- a rule that judges earlier had no proposal, and the text was not all decorations
    rcases Rule.finds_of_correction (hrules hmem) (hrules ho) hcorr hf with ⟨hft, hne⟩ | hexposes
    · have hrank : other.rank < 3 := by
        rcases Rule.mem_all.1 (hrules ho) with rfl | rfl | rfl | rfl <;> simp_all [Rule.rank]
      rcases Rule.finds_without_proposal (hrules ho) hft (hfirst other ho hrank) with rfl | ⟨-, hnil⟩
      · exact Rule.not_corrects_englishOnly hnext
      · obtain ⟨c, hc, hplain⟩ := Sensitive.exists_isPlain hoccurs
        have hstrip := Special.mem_strip hplain hc
        rw [hnil] at hstrip
        cases hstrip
    · cases hexposes

/-- **Each rule corrects a text once.** What the corrections so far have settled stays settled. -/
theorem step (hrules : rules ⊆ Rule.all builtinPatterns) (h : Spent rules spent text)
    (hp : Proposes rules rule text fixed) : Spent rules (rule.kind :: spent) fixed := by
  have hcorr := (Rule.proposal?_eq_some.1 hp.2.1).1
  -- nothing is proposed after a redaction
  have hred : .noSensitiveData ∉ spent := by
    intro hs
    have hnone := h.redacted hs rule hp.1
    rw [hp.2.1] at hnone
    cases hnone
  rcases Rule.mem_all.1 (hrules hp.1) with rfl | rfl | rfl | rfl
  · exact h.lowercaseStart hcorr hred
  · exact absurd hcorr Rule.not_corrects_englishOnly
  · exact h.noSpecialChars hcorr hred
  · exact noSensitiveData hrules hp h

end Spent

end

/-! ## Messages at a place -/

/-- A logging call whose message is one literal, parentheses aside, with whatever text. -/
structure Site where
  file : String
  types : String → Resolver
  call : String → Expr
  argument : String → LoggingApi.MessageArgument
  resolved : ∀ text, LoggingApi.resolve? (types text) (call text) = some (argument text)
  literal : ∀ text, ∃ id span,
    (argument text).expr.stripParens = .literal id span (Literal.quote text)

namespace Site

variable (site : Site) (engine : Engine Rule)

/-- The violations of the call when its message has a text. -/
def violations (text : String) : List Violation :=
  engine.checkCall site.file (site.types text) (site.call text)

/-- The corrections of a message from a text on: the first violation that carries a replacement is
corrected, until there is none. -/
inductive Run : String → List Violation → String → Prop where
  | stop {text} : (∀ v ∈ site.violations engine text, v.isFixable = false) → Run text [] text
  | step {text v r next vs last} :
      (site.violations engine text).find? Violation.isFixable = some v →
      v.replacement? = some r → Literal.value? r.newText = some next →
      Run next vs last → Run text (v :: vs) last

variable {site engine} {text : String} {v : Violation}

theorem violations_eq : site.violations engine text = engine.rules.filterMap fun configured =>
    (configured.rule.check? text).map fun finding =>
      .ofFinding site.file (site.argument text).expr configured.rule configured.severity finding
        true := by
  obtain ⟨id, span, hlit⟩ := site.literal text
  have hreplaceable : Message.isReplaceable (site.argument text).expr = true :=
    Expr.isLiteral_iff.2 ⟨id, span, _, hlit⟩
  rw [violations, Engine.checkCall, site.resolved text]
  simp only
  rw [Engine.checkMessage_literal hlit (Literal.value?_quote text), Engine.checkFragment, hreplaceable]
  congr 1
  funext configured
  rw [if_pos (by cases configured.rule <;> rfl), Rule.check?_eq]

theorem mem_violations : v ∈ site.violations engine text ↔
    ∃ configured ∈ engine.rules, ∃ finding, configured.rule.check? text = some finding ∧
      v = .ofFinding site.file (site.argument text).expr configured.rule configured.severity
        finding true := by
  simp only [violations_eq, List.mem_filterMap, Option.map_eq_some_iff, eq_comm (a := v)]

/-- A violation carries what its rule proposes. -/
theorem replacement?_of_check? {configured : ConfiguredRule Rule} {finding : Finding}
    (h : configured.rule.check? text = some finding) :
    (Violation.ofFinding site.file (site.argument text).expr configured.rule
        configured.severity finding true).replacement? =
      (configured.rule.proposal? text).map
        (⟨Location.ofSpan site.file (site.argument text).expr.span, Literal.quote ·⟩) := by
  rw [Violation.replacement?_ofFinding, if_pos rfl, Rule.proposal?, h, Option.bind_some]

theorem isFixable_of_check? {configured : ConfiguredRule Rule} {finding : Finding}
    (h : configured.rule.check? text = some finding) :
    (Violation.ofFinding site.file (site.argument text).expr configured.rule
        configured.severity finding true).isFixable = (configured.rule.proposal? text).isSome := by
  rw [Violation.isFixable, replacement?_of_check? h, Option.isSome_map]

/-- The first violation that carries a replacement comes from the first rule with a proposal. -/
theorem proposes_of_find? (hrules : (engine.rules.map (·.rule)).Sublist (Rule.all builtinPatterns))
    (h : (site.violations engine text).find? Violation.isFixable = some v) :
    ∃ rule fixed r, Proposes (engine.rules.map (·.rule)) rule text fixed ∧
      v.code = rule.kind.code ∧ v.replacement? = some r ∧ r.newText = Literal.quote fixed := by
  rw [violations_eq, List.find?_filterMap, Option.bind_eq_some_iff] at h
  obtain ⟨configured, hfirst, hv⟩ := h
  obtain ⟨hfix, front, back, heq, hfront⟩ := List.find?_eq_some_iff_append.1 hfirst
  obtain ⟨finding, hfinding, rfl⟩ := Option.map_eq_some_iff.1 hv
  rw [hfinding, Option.map_some, Option.any_some, isFixable_of_check? hfinding] at hfix
  obtain ⟨fixed, hfixed⟩ := Option.isSome_iff_exists.1 hfix
  refine ⟨configured.rule, fixed, ⟨Location.ofSpan site.file (site.argument text).expr.span,
    Literal.quote fixed⟩, ⟨?_, hfixed, ?_⟩, rfl, ?_, rfl⟩
  · exact List.mem_map_of_mem (by simp [heq])
  · -- rules that judge earlier stand in front of the first one with a proposal
    intro other ho hrank
    obtain ⟨c, hc, rfl⟩ := List.mem_map.1 ho
    have hpair := (Rule.pairwise_rank builtinPatterns).sublist hrules
    rw [heq, List.map_append, List.map_cons, List.pairwise_append, List.pairwise_cons] at hpair
    rw [heq, List.mem_append, List.mem_cons] at hc
    rcases hc with hc | rfl | hc
    · have hno := hfront c hc
      cases hp : c.rule.proposal? text with
      | none => rfl
      | some next =>
        obtain ⟨finding, hfinding, -⟩ := Option.bind_eq_some_iff.1 hp
        simp [hfinding, isFixable_of_check? hfinding, hp] at hno
    · omega
    · have := hpair.2.1.1 c.rule (List.mem_map_of_mem hc)
      omega
  · rw [replacement?_of_check? hfinding, hfixed]
    rfl

/-- The rules that can correct a text. -/
def fixable : List RuleKind := [.lowercaseStart, .noSpecialChars, .noSensitiveData]

/-- What is left when nothing can be corrected. -/
theorem code_of_not_isFixable
    (hrules : (engine.rules.map (·.rule)).Sublist (Rule.all builtinPatterns))
    (hv : v ∈ site.violations engine text) (h : v.isFixable = false) :
    v.code = "LM002" ∨ v.code = "LM003" ∧ Special.strip text.toList = [] := by
  obtain ⟨configured, hmem, finding, hfinding, rfl⟩ := mem_violations.1 hv
  rw [isFixable_of_check? hfinding, Option.isSome_eq_false_iff, Option.isNone_iff_eq_none] at h
  have hfinds : configured.rule.finds text = true := by rw [Rule.finds, hfinding]; rfl
  have hrule := hrules.subset (List.mem_map_of_mem hmem)
  rcases Rule.finds_without_proposal hrule hfinds h with hr | ⟨hr, hnil⟩
  · exact Or.inl (congrArg (·.kind.code) hr)
  · exact Or.inr ⟨congrArg (·.kind.code) hr, hnil⟩

theorem mem_fixable {rules : List Rule} {rule : Rule} {fixed : String}
    (hrules : rules ⊆ Rule.all builtinPatterns) (hp : Proposes rules rule text fixed) :
    rule.kind ∈ fixable := by
  rcases Rule.mem_all.1 (hrules hp.1) with rfl | rfl | rfl | rfl
  · simp [fixable, Rule.kind]
  · exact absurd (Rule.proposal?_eq_some.1 hp.2.1).1 Rule.not_corrects_englishOnly
  · simp [fixable, Rule.kind]
  · simp [fixable, Rule.kind]

/-- A run from a text that some rules have corrected goes on with other rules, and ends. -/
theorem exists_run (site : Site)
    (hrules : (engine.rules.map (·.rule)).Sublist (Rule.all builtinPatterns))
    {spent : List RuleKind} (hnodup : spent.Nodup) (hsub : spent ⊆ fixable)
    (h : Spent (engine.rules.map (·.rule)) spent text) :
    ∃ vs last kinds, site.Run engine text vs last ∧ vs.map (·.code) = kinds.map RuleKind.code ∧
      (kinds ++ spent).Nodup ∧ kinds ⊆ fixable := by
  induction hn : fixable.length - spent.length using Nat.strongRecOn generalizing text spent with
  | ind n ih =>
    subst hn
    cases hfind : (site.violations engine text).find? Violation.isFixable with
    | none =>
      refine ⟨[], text, [], .stop fun v hv => ?_, rfl, hnodup, List.nil_subset _⟩
      simpa using List.find?_eq_none.1 hfind v hv
    | some v =>
      obtain ⟨rule, fixed, r, hp, hcode, hr, hnew⟩ := proposes_of_find? hrules hfind
      -- each step spends another rule, so that the number of unspent ones goes down
      have hnotMem := h.notMem hrules.subset hp
      have hnodup' : (rule.kind :: spent).Nodup := List.nodup_cons.2 ⟨hnotMem, hnodup⟩
      have hsub' : rule.kind :: spent ⊆ fixable :=
        List.cons_subset.2 ⟨mem_fixable hrules.subset hp, hsub⟩
      have hlen := hnodup'.length_le_of_subset hsub'
      rw [List.length_cons] at hlen
      obtain ⟨vs, last, kinds, hrun, hcodes, hnd, hk⟩ :=
        ih _ (by rw [List.length_cons]; omega) hnodup' hsub' (h.step hrules.subset hp) rfl
      refine ⟨v :: vs, last, rule.kind :: kinds, .step hfind hr ?_ hrun, ?_, ?_, ?_⟩
      · rw [hnew, Literal.value?_quote]
      · rw [List.map_cons, List.map_cons, hcode, hcodes]
      · exact List.perm_middle.nodup_iff.1 hnd
      · exact List.cons_subset.2 ⟨mem_fixable hrules.subset hp, hk⟩

theorem Run.not_isFixable {vs : List Violation} {last : String} (h : site.Run engine text vs last) :
    ∀ v ∈ site.violations engine last, v.isFixable = false := by
  induction h with
  | stop h => exact h
  | step _ _ _ _ ih => exact ih

/-- **Corrections converge.** With any of the built-in rules in their order, and the patterns that
are always on, the corrections of a message end. There are at most three, each by another rule, and
what is left are letters of other alphabets and messages that are nothing but decorations. -/
theorem run_converges :
    ∃ patterns, Sensitive.compileWithBuiltins Pattern.ofText? [] = .ok patterns ∧
    ∀ engine : Engine Rule, (engine.rules.map (·.rule)).Sublist (Rule.all patterns) →
      ∀ (site : Site) (text : String), ∃ vs last, site.Run engine text vs last ∧
        vs.length ≤ 3 ∧ (vs.map (·.code)).Nodup ∧
        (∀ v ∈ vs, v.code ∈ ["LM001", "LM003", "LM004"]) ∧
        ∀ v ∈ site.violations engine last,
          v.code = "LM002" ∨ v.code = "LM003" ∧ Special.strip last.toList = [] := by
  refine ⟨builtinPatterns, Sensitive.compile_builtins, fun engine hrules site text => ?_⟩
  have hstart : Spent (engine.rules.map (·.rule)) [] text := by constructor <;> simp
  obtain ⟨vs, last, kinds, hrun, hcodes, hnd, hk⟩ :=
    exists_run site hrules List.nodup_nil (List.nil_subset _) hstart
  rw [List.append_nil] at hnd
  refine ⟨vs, last, hrun, ?_, ?_, ?_, ?_⟩
  · have hlen := congrArg List.length hcodes
    rw [List.length_map, List.length_map] at hlen
    rw [hlen]
    exact hnd.length_le_of_subset hk
  · rw [hcodes]
    exact List.pairwise_map.2 (hnd.imp fun hne he => hne (RuleKind.eq_of_code he))
  · intro v hv
    obtain ⟨kind, hkind, hcode⟩ := List.mem_map.1 (hcodes ▸ List.mem_map_of_mem hv)
    rw [← hcode]
    exact List.mem_map_of_mem (f := RuleKind.code) (hk hkind)
  · exact fun v hv => code_of_not_isFixable hrules hv (hrun.not_isFixable v hv)

/-- The call of a function that logs, with its message in parentheses. -/
def info : Site where
  file := "main.go"
  types _ :=
    { useOf := fun id => if id = 3 then some (.function (.function "log/slog" "Info")) else none
      selection := fun _ => none
      typeOf := fun id => if id = 5 then some .string else none }
  call text := .call 0 {} (.select 1 {} (.ident 2 {} "slog") ⟨3, "Info", {}⟩)
    [.paren 4 {} (.literal 5 {} (Literal.quote text))]
  argument text := ⟨.paren 4 {} (.literal 5 {} (Literal.quote text)), 0⟩
  resolved _ := rfl
  literal _ := ⟨5, {}, rfl⟩

/-- A message with decorations, a capital under them, and a sensitive word. -/
theorem run_converges_password : ∃ engine : Engine Rule,
    (engine.rules.map (·.rule)).Sublist (Rule.all builtinPatterns) ∧
      (info.violations engine "!Password?").map (·.code) = ["LM003", "LM004"] ∧
      ∃ vs last, info.Run engine "!Password?" vs last ∧
        vs.length ≤ 3 ∧ (vs.map (·.code)).Nodup ∧
        (∀ v ∈ vs, v.code ∈ ["LM001", "LM003", "LM004"]) ∧
        ∀ v ∈ info.violations engine last,
          v.code = "LM002" ∨ v.code = "LM003" ∧ Special.strip last.toList = [] := by
  let engine : Engine Rule := ⟨(Rule.all builtinPatterns).map (⟨·, .warning⟩)⟩
  have hrules : (engine.rules.map (·.rule)).Sublist (Rule.all builtinPatterns) := List.Sublist.refl _
  obtain ⟨patterns, hp, h⟩ := run_converges
  rw [Sensitive.compile_builtins] at hp
  obtain rfl := Except.ok.inj hp
  exact ⟨engine, hrules, by decide +kernel, h engine hrules info "!Password?"⟩

end Site

end LogStyle
