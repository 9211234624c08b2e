import LogStyle.Proofs.Changes
import LogStyle.Proofs.Selecting
import Mathlib.Data.List.DropRight

/-!
# Compiling patterns

The patterns of sensitive words are compiled all together or not at all. What a regular expression is
does not matter for that. What is compiled are the
texts that remain when blanks around them, blank texts and repetitions are dropped. So a text that
is blank or was there before may be added, and nothing changes.

* `FirstSeen`: the trimmed texts of a list, in the order in which they first occur.
* `FirstInvalid`: the first trimmed text of a list that is no regular expression.
* `Idle`: a text that is blank, or there before up to blanks around it.
* `Config.Alike`: configurations that differ in patterns that are dropped, and in nothing else.
* `Settings.Appends`: a document with one more pattern in its settings.
* `compile_exact`: **compiling succeeds exactly if every text that is not blank is a regular
  expression, and gives them in the order in which they first occur. Otherwise the error names the
  first one that is not. A text that is blank or was there before changes nothing, be it configured
  or given with the command.**
-/

namespace LogStyle

/-! ## Trimmed texts -/

namespace Text

theorem trim_trim (cs : List Char) : trim (trim cs) = trim cs := by
  -- What remains begins as the text does after its first blanks, so none are dropped there again.
  have hfront : (trim cs).dropWhile isBlank = trim cs := by
    have hprefix : trim cs <+: cs.dropWhile isBlank := List.rdropWhile_prefix isBlank _
    cases htrim : trim cs with
    | nil => rfl
    | cons c rest =>
      obtain ⟨after, hafter⟩ := htrim ▸ hprefix
      have hblank : isBlank c = false := by
        have hhead := List.head?_dropWhile_not isBlank cs
        rwa [← hafter] at hhead
      rw [List.dropWhile_cons_of_neg (by simp [hblank])]
  calc trim (trim cs) = trimEnd (trim cs) := by rw [trim.eq_def (trim cs), hfront]
    _ = trim cs := List.rdropWhile_idempotent isBlank _

@[simp] theorem trimString_trimString (s : String) :
    trimString (trimString s) = trimString s := by
  simp [trimString, trim_trim]

end Text

/-! ## What is compiled -/

namespace Sensitive

open Text (trimString)

variable {regex? : String → Option Pattern.Regex} {texts a b : List String}
  {entry source : String}

/-- A text that is blank, or equal up to blanks around it to one before. -/
def Idle (before : List String) (entry : String) : Prop :=
  trimString entry = "" ∨ ∃ earlier ∈ before, trimString earlier = trimString entry

/-- The trimmed texts of a list that are not blank, each once and in the order in which they first
occur. -/
structure FirstSeen (texts seen : List String) : Prop where
  mem_iff : ∀ source, source ∈ seen ↔ source ≠ "" ∧ ∃ entry ∈ texts, trimString entry = source
  nodup : seen.Nodup
  ordered : seen.Pairwise fun s t =>
    (texts.map trimString).idxOf s < (texts.map trimString).idxOf t

/-- The first trimmed text of a list that is neither blank nor a regular expression. -/
def FirstInvalid (regex? : String → Option Pattern.Regex) (texts : List String)
    (source : String) : Prop :=
  ∃ before entry after, texts = before ++ entry :: after ∧ trimString entry = source ∧
    source ≠ "" ∧ regex? source = none ∧
    ∀ earlier ∈ before, trimString earlier ≠ "" → (regex? (trimString earlier)).isSome

theorem mem_sources : source ∈ sources texts ↔
    source ≠ "" ∧ ∃ entry ∈ texts, trimString entry = source := by
  simp [sources, and_comm]

theorem eraseDups_concat (l : List String) (x : String) :
    (l ++ [x]).eraseDups = if x ∈ l then l.eraseDups else l.eraseDups ++ [x] := by
  rw [List.eraseDups_append, List.removeAll]
  split
  · rename_i hmem
    simp [hmem]
  · rename_i hmem
    simp [hmem, List.eraseDups_cons]

/-- One more text: it is dropped if it is blank or was there before. -/
theorem sources_concat (texts : List String) (entry : String) : sources (texts ++ [entry]) =
    if trimString entry = "" ∨ trimString entry ∈ sources texts then sources texts
    else sources texts ++ [trimString entry] := by
  by_cases hblank : trimString entry = ""
  · simp [sources, hblank]
  · have hfilter : ((texts ++ [entry]).map trimString).filter (!·.isEmpty) =
        (texts.map trimString).filter (!·.isEmpty) ++ [trimString entry] := by
      simp [hblank]
    rw [sources, hfilter, eraseDups_concat, ← sources]
    simp only [hblank, false_or, sources, List.mem_eraseDups]

theorem sources_append_idle (h : Idle texts entry) :
    sources (texts ++ [entry]) = sources texts := by
  rw [sources_concat, if_pos]
  by_cases hblank : trimString entry = ""
  · exact .inl hblank
  · exact .inr (mem_sources.2 ⟨hblank, h.resolve_left hblank⟩)

/-- It does not matter whether a text is trimmed before. -/
theorem sources_append_trimString (texts : List String) (entry : String) :
    sources (texts ++ [trimString entry]) = sources (texts ++ [entry]) := by
  rw [sources_concat, sources_concat, Text.trimString_trimString]

/-- What is compiled of more texts depends on what is compiled of those before. -/
theorem sources_append_congr (h : sources a = sources b) (more : List String) :
    sources (a ++ more) = sources (b ++ more) := by
  induction more using List.reverseRecOn with
  | nil => simpa using h
  | append_singleton more entry ih =>
    rw [← List.append_assoc, ← List.append_assoc, sources_concat, sources_concat, ih]

/-- **The texts to compile are in the order in which they first occur.** -/
theorem firstSeen_sources (texts : List String) : FirstSeen texts (sources texts) where
  mem_iff _ := mem_sources
  nodup := Bindings.nodup_eraseDups _
  ordered := by
    induction texts using List.reverseRecOn with
    | nil => exact .nil
    | append_singleton texts entry ih =>
      have hold : ∀ s ∈ sources texts, s ∈ texts.map trimString := by
        intro s hs
        simpa using (mem_sources.1 hs).2
      -- What was there before keeps its place.
      have hplace : ∀ s ∈ sources texts, ((texts ++ [entry]).map trimString).idxOf s =
          (texts.map trimString).idxOf s := by
        intro s hs
        rw [List.map_append, List.idxOf_append_of_mem (hold s hs)]
      have hbefore : (sources texts).Pairwise fun s t =>
          ((texts ++ [entry]).map trimString).idxOf s <
            ((texts ++ [entry]).map trimString).idxOf t := by
        refine ih.imp_of_mem fun {s t} hs ht h => ?_
        rwa [hplace s hs, hplace t ht]
      rw [sources_concat]
      split
      · exact hbefore
      · rename_i hnew
        rw [List.pairwise_append]
        refine ⟨hbefore, List.pairwise_singleton _ _, fun s hs t ht => ?_⟩
        obtain rfl := List.mem_singleton.1 ht
        have hfresh : trimString entry ∉ texts.map trimString := by
          intro hmem
          rw [List.mem_map] at hmem
          exact hnew (.inr (mem_sources.2 ⟨fun hblank => hnew (.inl hblank), hmem⟩))
        rw [hplace s hs, List.map_append, List.idxOf_append_of_notMem hfresh]
        have hlt := List.idxOf_lt_length_of_mem (hold s hs)
        simp only [List.length_map] at hlt ⊢
        omega

/-! ## What compiling gives -/

/-- The patterns of a list of texts. -/
structure Compiled (regex? : String → Option Pattern.Regex) (texts : List String)
    (patterns : List Pattern) : Prop where
  sources : patterns.map (·.source) = Sensitive.sources texts
  regex : ∀ p ∈ patterns, regex? p.source = some p.regex

theorem Compiled.isSome {patterns : List Pattern} (h : Compiled regex? texts patterns)
    (hentry : entry ∈ texts) (hblank : trimString entry ≠ "") :
    (regex? (trimString entry)).isSome := by
  have hmem : trimString entry ∈ patterns.map (·.source) := by
    rw [h.sources]
    exact mem_sources.2 ⟨hblank, entry, hentry, rfl⟩
  obtain ⟨p, hp, hsource⟩ := List.mem_map.1 hmem
  rw [← hsource, h.regex p hp, Option.isSome_some]

theorem FirstInvalid.append (h : FirstInvalid regex? texts source) (more : List String) :
    FirstInvalid regex? (texts ++ more) source := by
  obtain ⟨before, entry, after, rfl, h⟩ := h
  exact ⟨before, entry, after ++ more, by simp, h⟩

theorem mapM_concat {ε α β : Type} (f : α → Except ε β) (l : List α) (x : α) :
    (l ++ [x]).mapM f = (l.mapM f).bind fun ys => (f x).map (ys ++ [·]) := by
  rw [List.mapM_append]
  cases l.mapM f with
  | error e => rfl
  | ok ys => cases hx : f x <;> simp [hx, Except.map, Except.bind, bind, pure, Except.pure]

/-- One more text: it is compiled last, unless it is dropped. -/
theorem compile_concat (regex? : String → Option Pattern.Regex) (texts : List String)
    (entry : String) : compile regex? (texts ++ [entry]) =
      if trimString entry = "" ∨ trimString entry ∈ sources texts then compile regex? texts
      else (compile regex? texts).bind fun patterns =>
        (compileOne regex? (trimString entry)).map (patterns ++ [·]) := by
  unfold compile
  rw [sources_concat]
  split
  · rfl
  · exact mapM_concat _ _ _

/-- **Compiling gives every pattern, or the first text that is none.** -/
theorem compile_cases (regex? : String → Option Pattern.Regex) (texts : List String) :
    (∃ patterns, compile regex? texts = .ok patterns ∧ Compiled regex? texts patterns) ∨
      ∃ e, compile regex? texts = .error e ∧ FirstInvalid regex? texts e.pattern := by
  induction texts using List.reverseRecOn with
  | nil => exact .inl ⟨[], rfl, rfl, by simp⟩
  | append_singleton texts entry ih =>
    rcases ih with ⟨patterns, hok, hcompiled⟩ | ⟨e, herror, hfirst⟩
    · by_cases hdropped : trimString entry = "" ∨ trimString entry ∈ sources texts
      · rw [compile_concat, if_pos hdropped]
        refine .inl ⟨patterns, hok, ?_, hcompiled.regex⟩
        rw [hcompiled.sources, sources_concat, if_pos hdropped]
      · rw [compile_concat, if_neg hdropped, hok, Except.bind, compileOne]
        cases hparse : regex? (trimString entry) with
        | some regex =>
          refine .inl ⟨_, rfl, ?_, ?_⟩
          · rw [List.map_append, hcompiled.sources, sources_concat, if_neg hdropped]
            rfl
          · intro p hp
            rcases List.mem_append.1 hp with hp | hp
            · exact hcompiled.regex p hp
            · obtain rfl := List.mem_singleton.1 hp
              exact hparse
        | none =>
          exact .inr ⟨_, rfl, texts, entry, [], rfl, rfl, fun hblank => hdropped (.inl hblank),
            hparse, fun earlier hearlier hblank => hcompiled.isSome hearlier hblank⟩
    · refine .inr ⟨e, ?_, hfirst.append _⟩
      rw [compile_concat, herror]
      split <;> rfl

end Sensitive

/-! ## Configurations that differ in what is dropped -/

open Sensitive (sources builtins Idle)

/-- Configurations that differ in patterns that are dropped, and in nothing else. -/
structure Config.Alike (config config' : Config) : Prop where
  failOn : config'.failOn = config.failOn
  analyzer : config'.analyzer = config.analyzer
  rules : config'.rules = config.rules
  sources : sources (builtins ++ config'.sensitivePatterns) =
    sources (builtins ++ config.sensitivePatterns)

namespace Config.Alike

variable {config config' : Config}

/-- **A text that is blank or was there before may be added.** -/
theorem of_idle (config : Config) {entry : String}
    (h : Idle (builtins ++ config.sensitivePatterns) entry) :
    Alike config (config.addPatterns [entry]) where
  failOn := rfl
  analyzer := rfl
  rules := rfl
  sources := by
    rw [addPatterns, ← List.append_assoc]
    exact Sensitive.sources_append_idle h

theorem addPatterns (h : Alike config config') (more : List String) :
    Alike (config.addPatterns more) (config'.addPatterns more) where
  failOn := h.failOn
  analyzer := h.analyzer
  rules := h.rules
  sources := by
    simpa [Config.addPatterns] using Sensitive.sources_append_congr h.sources more

theorem setEnabled (h : Alike config config') (name : String) (enabled : Bool) :
    Alike (config.setEnabled name enabled) (config'.setEnabled name enabled) where
  failOn := h.failOn
  analyzer := h.analyzer
  rules := by simp only [Config.setEnabled, h.rules]
  sources := h.sources

theorem enableOnly (h : Alike config config') (kinds : List RuleKind) :
    Alike (config.enableOnly kinds) (config'.enableOnly kinds) := by
  unfold Config.enableOnly
  induction RuleKind.all generalizing config config' with
  | nil => exact h
  | cons kind rest ih => exact ih (h.setEnabled _ _)

/-- **The engines are the same,** or fail in the same way. -/
theorem ofConfig_eq (h : Alike config config') (regex? : String → Option Pattern.Regex) :
    Engine.ofConfig regex? config' = Engine.ofConfig regex? config := by
  have hcompile : Sensitive.compileWithBuiltins regex? config'.sensitivePatterns =
      Sensitive.compileWithBuiltins regex? config.sensitivePatterns := by
    unfold Sensitive.compileWithBuiltins Sensitive.compile
    rw [h.sources]
  have hrules : ∀ rules : List Rule, Engine.ofRules config' rules = Engine.ofRules config rules := by
    intro rules
    simp only [Engine.ofRules, isEnabled, severity?, h.rules]
  rw [Engine.ofConfig_eq, Engine.ofConfig_eq, hcompile]
  simp only [hrules]

theorem failThreshold_eq (h : Alike config config') :
    config'.failThreshold = config.failThreshold := by
  rw [failThreshold, failThreshold, h.failOn]

theorem analysis_eq (h : Alike config config') (tools : Tools) (fs : FileSystem)
    (target : String) (exclude : List String) :
    Analysis.run tools fs target config' exclude = Analysis.run tools fs target config exclude := by
  simp only [Analysis.run, Analysis.root, unknownRules, h.rules, h.analyzer, h.ofConfig_eq]

end Config.Alike

/-! ## Checks that differ in what is dropped -/

/-- With whatever is given with the command, two configurations have the same engine, or the same
error, and the same analyses. -/
structure Config.Agree (tools : Tools) (config config' : Config) : Prop where
  engine : ∀ more, Engine.ofConfig tools.regex? (config'.addPatterns more) =
    Engine.ofConfig tools.regex? (config.addPatterns more)
  failThreshold : config'.failThreshold = config.failThreshold
  analysis : ∀ more rules fs target exclude,
    (Check.restrict (config'.addPatterns more) rules >>=
        (Analysis.run tools fs target · exclude)) =
      Check.restrict (config.addPatterns more) rules >>= (Analysis.run tools fs target · exclude)

namespace Check

variable {tools : Tools} {config config' : Config} {fs : FileSystem} {target : String}
  {source : ConfigSource}

/-- A filter leaves configurations alike, so work that does not tell them apart goes on as it
does. -/
theorem restrict_bind_congr {β : Type} {next : Config → Logged β} (h : config.Alike config')
    (rules : Option String) (hnext : ∀ {c c' : Config}, c.Alike c' → next c' = next c) :
    restrict config' rules >>= next = restrict config rules >>= next := by
  cases rules with
  | none => simpa [restrict] using hnext h
  | some filter =>
    simp only [restrict, bind_assoc]
    congr 1
    funext _
    unfold Config.select
    cases Selection.kinds filter with
    | nil => rfl
    | cons kind kinds => exact hnext (h.enableOnly _)

end Check

theorem Config.Alike.agree {config config' : Config} (h : config.Alike config') (tools : Tools) :
    Agree tools config config' where
  engine more := (h.addPatterns more).ofConfig_eq tools.regex?
  failThreshold := h.failThreshold_eq
  analysis more rules fs target exclude :=
    Check.restrict_bind_congr (h.addPatterns more) rules fun h =>
      h.analysis_eq tools fs target exclude

namespace Check

/-- What decides about a check: from where on it fails, and what it finds. -/
def judged (tools : Tools) (fs : FileSystem) (target : String) (options : CheckOptions)
    (source : ConfigSource) : Logged (Severity × Analysis) :=
  (fun (config, analysis) => (config.failThreshold, analysis)) <$>
    inspect tools fs target options source

theorem run_map {α β : Type} (f : α → β) (work : Logged α) :
    (f <$> work).result = (work.result.1.map f, work.result.2) := by
  rw [Logged.result, map_eq_pure_bind, Logged.run_bind, Logged.result]
  rcases work.run.run [] with ⟨_ | _, log⟩ <;> rfl

/-- Of a configuration, only the threshold decides. -/
theorem run_congr {options options' : CheckOptions} (hformat : options'.format = options.format)
    (hfix : options'.fix = options.fix)
    (h : judged tools fs target options' source = judged tools fs target options source) :
    run tools fs target options' source = run tools fs target options source := by
  have hresult := congrArg Logged.result h
  simp only [judged, run_map, Prod.mk.injEq] at hresult
  obtain ⟨hvalue, hlog⟩ := hresult
  unfold run
  rcases hinspect : (inspect tools fs target options source).result with ⟨value, log⟩
  rcases hinspect' : (inspect tools fs target options' source).result with ⟨value', log'⟩
  rw [hinspect, hinspect'] at hvalue hlog
  obtain rfl : log' = log := hlog
  rcases value with e | ⟨config, analysis⟩ <;> rcases value' with e' | ⟨config', analysis'⟩
  · obtain rfl : e' = e := Except.error.inj hvalue
    rfl
  · cases hvalue
  · cases hvalue
  · simp only [Except.map, Except.ok.injEq, Prod.mk.injEq] at hvalue
    obtain ⟨hthreshold, rfl⟩ := hvalue
    simp only [hformat, hfix, hthreshold]

/-- The steps that decide about a check. -/
theorem judged_eq (options : CheckOptions) : judged tools fs target options source = (do
    (source.note?.elim (pure ()) fun line => Logged.say line.level line.text : Logged Unit)
    let loaded ← (source.load fs).mapError CommandError.config
    let config ← restrict (loaded.addPatterns options.sensitivePatterns) options.rules
    (config.failThreshold, ·) <$> Analysis.run tools fs target config options.exclude) := by
  unfold judged inspect prepare
  cases source.note? <;> simp

/-- **A pattern that is dropped may be given with the command.** -/
theorem run_idle {options : CheckOptions} {entry : String}
    (h : ∀ config, source.load fs = .ok config →
      Idle (builtins ++ (config.addPatterns options.sensitivePatterns).sensitivePatterns) entry) :
    run tools fs target { options with sensitivePatterns := options.sensitivePatterns ++ [entry] }
      source = run tools fs target options source := by
  refine run_congr rfl rfl ?_
  rw [judged_eq, judged_eq]
  congr 1
  funext _
  cases hload : source.load fs with
  | error e => rfl
  | ok loaded =>
    have halike := Config.Alike.of_idle _ (h loaded hload)
    rw [Config.addPatterns, Config.addPatterns, List.append_assoc] at halike
    refine restrict_bind_congr halike options.rules fun hc => ?_
    rw [hc.failThreshold_eq, hc.analysis_eq]

end Check

/-! ## Configuration files with one more pattern -/

namespace Settings

open Toml (Value)

variable {entry key : String} {entries entries' : List (String × Value)} {doc doc' : Value}

/-- A list of patterns with one more at its end. There may be none yet, and one alone may stand
without a list. -/
inductive Longer (entry : String) : Option Value → Value → Prop
  | alone : Longer entry none (.string entry)
  | first : Longer entry none (.array [.string entry])
  | second (s : String) : Longer entry (some (.string s)) (.array [.string s, .string entry])
  | last (items : List Value) :
    Longer entry (some (.array items)) (.array (items ++ [.string entry]))

/-- Settings with one more pattern under a key. It is the key that counts: none that is preferred is
there, and if the key is new then there are no patterns yet. -/
structure AppendsAt (entry key : String) (entries entries' : List (String × Value)) : Prop where
  known : key ∈ patternKeys
  longer : ∃ v, entries'.lookup key = some v ∧ Longer entry (entries.lookup key) v
  others : ∀ other, other ≠ key → entries'.lookup other = entries.lookup other
  preferred : ∀ other ∈ patternKeys.takeWhile (· ≠ key), entries.lookup other = none
  fresh : entries.lookup key = none → ∀ other ∈ patternKeys, entries.lookup other = none

/-- A document with one more pattern in its settings, and everything else as it is. -/
structure Appends (entry : String) (doc doc' : Value) : Prop where
  others : ∀ key, key ≠ "settings" → doc'.get? key = doc.get? key
  settings : ∃ entries entries' key, (doc.get? "settings").getD (.table []) = .table entries ∧
    doc'.get? "settings" = some (.table entries') ∧ AppendsAt entry key entries entries'

/-- The patterns of settings are those of the preferred key. -/
theorem ofValue_of_lookup {v : Value} (hknown : key ∈ patternKeys)
    (hpreferred : ∀ other ∈ patternKeys.takeWhile (· ≠ key), entries.lookup other = none)
    (hlookup : entries.lookup key = some v) : ofValue (.table entries) = patterns key v := by
  have hfound : (patternKeys.findSome? fun key => (entries.lookup key).map (key, ·)) =
      some (key, v) := by
    simp only [patternKeys, List.mem_cons, List.not_mem_nil, or_false] at hknown
    rcases hknown with rfl | rfl | rfl
    · simp [patternKeys, hlookup]
    · simp [patternKeys, hlookup, hpreferred "sensitive-patterns" (by decide)]
    · simp [patternKeys, hlookup, hpreferred "sensitive-patterns" (by decide),
        hpreferred "sensitive_patterns" (by decide)]
  simp only [ofValue, hfound]

theorem ofValue_of_fresh (h : ∀ other ∈ patternKeys, entries.lookup other = none) :
    ofValue (.table entries) = .ok [] := by
  have hnone : (patternKeys.findSome? fun key => (entries.lookup key).map (key, ·)) = none := by
    rw [List.findSome?_eq_none_iff]
    intro other hother
    rw [h other hother, Option.map_none]
  simp only [ofValue, hnone]

/-- One more pattern is read last, if it is not blank. -/
theorem patterns_append (key : String) (items : List Value) (entry : String) :
    patterns key (.array (items ++ [.string entry])) =
      (patterns key (.array items)).map (· ++ (pattern? entry).toList) := by
  simp only [patterns, List.mapM_append]
  generalize List.mapM (m := Except ConfigError) _ items = found
  rcases found with e | found
  · rfl
  · cases hentry : pattern? entry <;> simp [hentry, Except.map, bind, Except.bind, pure, Except.pure]

/-- One pattern may stand alone. -/
theorem patterns_singleton (key s : String) :
    patterns key (.array [.string s]) = patterns key (.string s) := by
  have hnil : patterns key (.array []) = .ok [] := rfl
  rw [show [Value.string s] = [] ++ [.string s] from rfl, patterns_append, hnil, patterns]
  simp [Except.map]

/-- **One more pattern in the settings is read last, if it is not blank.** -/
theorem ofValue_appendsAt (h : AppendsAt entry key entries entries') :
    ofValue (.table entries') =
      (ofValue (.table entries)).map (· ++ (pattern? entry).toList) := by
  have hpreferred' : ∀ other ∈ patternKeys.takeWhile (· ≠ key), entries'.lookup other = none := by
    intro other hother
    have hne : other ≠ key := by simpa using List.mem_takeWhile_imp hother
    rw [h.others other hne, h.preferred other hother]
  obtain ⟨v', hlookup', hlonger⟩ := h.longer
  rw [ofValue_of_lookup h.known hpreferred' hlookup']
  cases hlookup : entries.lookup key with
  | none =>
    rw [ofValue_of_fresh (h.fresh hlookup)]
    rw [hlookup] at hlonger
    cases hlonger with
    | alone =>
      rw [← patterns_singleton]
      exact patterns_append key [] entry
    | first => exact patterns_append key [] entry
  | some v =>
    rw [ofValue_of_lookup h.known h.preferred hlookup]
    rw [hlookup] at hlonger
    cases hlonger with
    | second s =>
      rw [← patterns_singleton]
      exact patterns_append key [.string s] entry
    | last items => exact patterns_append key items entry

end Settings

namespace Config

variable {text text' entry : String} {doc doc' : Toml.Value}

/-- A configuration from its parts. Settings that are not there are empty. -/
theorem parse_eq {entries : List (String × Toml.Value)} (hdoc : Toml.parse? text = some doc)
    (hsettings : (doc.get? "settings").getD (.table []) = .table entries) :
    parse text = match ofTable? doc with
      | none => .error .malformed
      | some config => (Settings.ofValue (.table entries)).map fun patterns =>
        { config with sensitivePatterns := patterns } := by
  simp only [parse, hdoc]
  cases hget : doc.get? "settings" with
  | none =>
    rw [hget] at hsettings
    obtain rfl : [] = entries := by simpa using hsettings
    cases ofTable? doc <;> rfl
  | some v =>
    rw [hget] at hsettings
    obtain rfl : v = .table entries := hsettings
    cases ofTable? doc with
    | none => rfl
    | some config =>
      dsimp only
      cases Settings.ofValue (.table entries) <;> rfl

/-- **One more pattern in the settings is one more pattern of the configuration,** if it is not
blank, and changes nothing else. -/
theorem parse_appends (hdoc : Toml.parse? text = some doc) (hdoc' : Toml.parse? text' = some doc')
    (h : Settings.Appends entry doc doc') : parse text' =
      (parse text).map fun config => config.addPatterns (Settings.pattern? entry).toList := by
  obtain ⟨entries, entries', key, hsettings, hsettings', hat⟩ := h.settings
  have htable : ofTable? doc' = ofTable? doc := by
    unfold ofTable?
    rw [h.others "fail_on" (by decide), h.others "analyzer" (by decide),
      h.others "rules" (by decide)]
  rw [parse_eq hdoc hsettings, parse_eq hdoc' (by rw [hsettings']; rfl), htable,
    Settings.ofValue_appendsAt hat]
  cases ofTable? doc with
  | none => rfl
  | some config => cases Settings.ofValue (.table entries) <;> rfl

/-- The settings are trimmed when they are read, which is no difference. -/
theorem Alike.of_pattern? (config : Config)
    (h : Idle (builtins ++ config.sensitivePatterns) entry) :
    Alike config (config.addPatterns (Settings.pattern? entry).toList) := by
  refine ⟨rfl, rfl, rfl, ?_⟩
  have hidle := (Alike.of_idle config h).sources
  by_cases hblank : Text.trimString entry = ""
  · simp [Settings.pattern?, hblank, Config.addPatterns]
  · have hpattern : Settings.pattern? entry = some (Text.trimString entry) := by
      simp [Settings.pattern?, hblank]
    rw [hpattern, Option.toList_some, ← hidle, Config.addPatterns, Config.addPatterns,
      ← List.append_assoc, ← List.append_assoc]
    exact Sensitive.sources_append_trimString _ _

end Config

/-! ## Compiling is exact -/

namespace Sensitive

open Text (trimString)

/-- **Compiling is exact, and dropped texts do not matter,** whatever is accepted as a regular
expression.

Compiling succeeds exactly if every text that is not blank is a regular expression when it is
trimmed. Then the patterns are those of the trimmed texts that are not blank, in the order in which
they first occur. Otherwise the error names the first one that is no regular expression.

So a text that is blank, or there before up to blanks around it, may be added to the patterns of a
configuration: the engine is the same or fails as it did. It may be given with the command, and the
whole outcome is the same. It may be appended in the file, which is a configuration as it was one
before, and agrees with it whatever else is given. -/
theorem compile_exact (tools : Tools) (b c : List String) :
    ((∃ patterns, compile tools.regex? (b ++ c) = .ok patterns) ↔
      ∀ entry ∈ b ++ c, trimString entry ≠ "" → (tools.regex? (trimString entry)).isSome) ∧
    (∀ patterns, compile tools.regex? (b ++ c) = .ok patterns →
      FirstSeen (b ++ c) (patterns.map (·.source)) ∧
        ∀ p ∈ patterns, tools.regex? p.source = some p.regex) ∧
    (∀ e, compile tools.regex? (b ++ c) = .error e → FirstInvalid tools.regex? (b ++ c) e.pattern) ∧
    (∀ (config : Config) (entry : String), Idle (builtins ++ config.sensitivePatterns) entry →
      Config.Agree tools config (config.addPatterns [entry])) ∧
    (∀ (fs : FileSystem) (target : String) (options : CheckOptions) (source : ConfigSource) entry,
      (∀ config, source.load fs = .ok config →
        Idle (builtins ++ (config.sensitivePatterns ++ options.sensitivePatterns)) entry) →
      Check.run tools fs target
        { options with sensitivePatterns := options.sensitivePatterns ++ [entry] } source =
          Check.run tools fs target options source) ∧
    ∀ text text' doc doc' entry, Toml.parse? text = some doc → Toml.parse? text' = some doc' →
      Settings.Appends entry doc doc' →
      (∀ e, Config.parse text = .error e → Config.parse text' = .error e) ∧
      ∀ config, Config.parse text = .ok config →
        Idle (builtins ++ config.sensitivePatterns) entry →
        ∃ config', Config.parse text' = .ok config' ∧ Config.Agree tools config config' := by
  refine ⟨?_, ?_, ?_, ?_, ?_, ?_⟩
  · constructor
    · rintro ⟨patterns, hok⟩ entry hentry hblank
      rcases compile_cases tools.regex? (b ++ c) with ⟨_, -, hcompiled⟩ | ⟨e, herror, -⟩
      · exact hcompiled.isSome hentry hblank
      · rw [hok] at herror
        cases herror
    · intro hvalid
      rcases compile_cases tools.regex? (b ++ c) with ⟨patterns, hok, -⟩ | ⟨e, -, hfirst⟩
      · exact ⟨patterns, hok⟩
      · obtain ⟨before, entry, after, hsplit, hentry, hblank, hparse, -⟩ := hfirst
        have hsome := hvalid entry (by simp [hsplit]) (hentry ▸ hblank)
        rw [hentry, hparse] at hsome
        cases hsome
  · intro patterns hok
    rcases compile_cases tools.regex? (b ++ c) with ⟨_, hok', hcompiled⟩ | ⟨e, herror, -⟩
    · obtain rfl := Except.ok.inj (hok'.symm.trans hok)
      exact ⟨hcompiled.sources ▸ firstSeen_sources _, hcompiled.regex⟩
    · rw [hok] at herror
      cases herror
  · intro e herror
    rcases compile_cases tools.regex? (b ++ c) with ⟨_, hok, -⟩ | ⟨e', herror', hfirst⟩
    · rw [herror] at hok
      cases hok
    · obtain rfl := Except.error.inj (herror'.symm.trans herror)
      exact hfirst
  · intro config entry hidle
    exact (Config.Alike.of_idle config hidle).agree tools
  · intro fs target options source entry hidle
    exact Check.run_idle hidle
  · intro text text' doc doc' entry hdoc hdoc' happends
    rw [Config.parse_appends hdoc hdoc' happends]
    refine ⟨fun e herror => by rw [herror]; rfl, fun config hok hidle => ?_⟩
    rw [hok]
    exact ⟨_, rfl, (Config.Alike.of_pattern? config hidle).agree tools⟩

/-- Whether some values are some texts. -/
def areTexts : List Toml.Value → List String → Bool
  | [], [] => true
  | .string s :: values, text :: texts => s = text && areTexts values texts
  | _, _ => false

theorem eq_of_areTexts {values : List Toml.Value} {texts : List String}
    (h : areTexts values texts = true) : values = texts.map .string := by
  fun_induction areTexts values texts with
  | case1 => rfl
  | case2 s values text texts ih =>
    simp only [Bool.and_eq_true, decide_eq_true_eq] at h
    rw [List.map_cons, ih h.2, h.1]
  | case3 => cases h

/-- Whether a document is no more than a list of patterns in its settings. -/
def isListOf (texts : List String) : Toml.Value → Bool
  | .table [(heading, .table [(key, .array values)])] =>
    heading = "settings" && key = "sensitive-patterns" && areTexts values texts
  | _ => false

theorem eq_of_isListOf {texts : List String} {doc : Toml.Value} (h : isListOf texts doc = true) :
    doc = .table [("settings", .table [("sensitive-patterns", .array (texts.map .string))])] := by
  unfold isListOf at h
  split at h
  · simp only [Bool.and_eq_true, decide_eq_true_eq] at h
    obtain ⟨⟨rfl, rfl⟩, htexts⟩ := h
    rw [eq_of_areTexts htexts]
  · cases h

/-- Settings with one pattern, and with the same pattern once more, after a blank. -/
def listed : String := "[settings]\nsensitive-patterns = [\"ssn\"]\n"

@[inherit_doc listed]
def listedTwice : String := "[settings]\nsensitive-patterns = [\"ssn\", \" ssn\"]\n"

theorem compile_exact_listed :
    FirstSeen (["ssn", " pin"] ++ ["", "pin ", "id"]) ["ssn", "pin", "id"] ∧
    FirstInvalid Pattern.ofText? (["ssn", " ("] ++ [")", "ssn"]) "(" ∧
    ∃ config config', Config.parse listed = .ok config ∧ Config.parse listedTwice = .ok config' ∧
      config.sensitivePatterns ≠ config'.sensitivePatterns ∧ Config.Agree .bundled config config' := by
  have hok : ∃ patterns ∈ (compile Pattern.ofText? (["ssn", " pin"] ++ ["", "pin ", "id"])).toOption,
      patterns.map (·.source) = ["ssn", "pin", "id"] := by decide +kernel
  have herror : compile Pattern.ofText? (["ssn", " ("] ++ [")", "ssn"]) = .error ⟨"("⟩ := by
    decide +kernel
  have hdoc : ∃ doc ∈ Toml.parse? listed, isListOf ["ssn"] doc = true := by decide +kernel
  have hdoc' : ∃ doc ∈ Toml.parse? listedTwice, isListOf ["ssn", " ssn"] doc = true := by
    decide +kernel
  have hconfig : ∃ config ∈ (Config.parse listed).toOption,
      config.sensitivePatterns = ["ssn"] := by decide +kernel
  have hconfig' : ∃ config ∈ (Config.parse listedTwice).toOption,
      config.sensitivePatterns = ["ssn", "ssn"] := by decide +kernel
  obtain ⟨patterns, hpatterns, hsources⟩ := hok
  obtain ⟨doc, hdoc, hshape⟩ := hdoc
  obtain ⟨doc', hdoc', hshape'⟩ := hdoc'
  obtain ⟨config, hconfig, hlisted⟩ := hconfig
  obtain ⟨config', hconfig', hlisted'⟩ := hconfig'
  have hconfig := Except.toOption_eq_some.1 hconfig
  have hconfig' := Except.toOption_eq_some.1 hconfig'
  have happends : Settings.Appends " ssn" doc doc' := by
    rw [eq_of_isListOf hshape, eq_of_isListOf hshape']
    refine ⟨fun key hkey => ?_, _, _, "sensitive-patterns", rfl, rfl, by decide,
      ⟨_, rfl, .last [.string "ssn"]⟩, fun other hother => ?_, by decide, by decide⟩
    · simp [Toml.Value.get?, List.lookup_cons, beq_eq_false_iff_ne.2 hkey]
    · simp [List.lookup_cons, beq_eq_false_iff_ne.2 hother]
  have hidle : Idle (builtins ++ config.sensitivePatterns) " ssn" :=
    .inr ⟨"ssn", by simp [hlisted], by decide +kernel⟩
  obtain ⟨-, hseen, -⟩ := compile_exact .bundled ["ssn", " pin"] ["", "pin ", "id"]
  obtain ⟨-, -, hinvalid, -, -, hfile⟩ := compile_exact .bundled ["ssn", " ("] [")", "ssn"]
  obtain ⟨agreeing, hagreeing, hagree⟩ := (hfile _ _ _ _ _ hdoc hdoc' happends).2 _ hconfig hidle
  obtain rfl := Except.ok.inj (hagreeing.symm.trans hconfig')
  refine ⟨hsources ▸ (hseen patterns (Except.toOption_eq_some.1 hpatterns)).1,
    hinvalid _ herror, config, agreeing, hconfig, hconfig', ?_, hagree⟩
  simp [hlisted, hlisted']

end Sensitive

end LogStyle
