import LogStyle.Proofs.Interaction
import LogStyle.Proofs.Leftovers
import LogStyle.Proofs.Rewrites

/-!
# The verdict on fixed files

When files are fixed, the verdict counts the violations that were found before and are not fixed.
Whether another check of the fixed files agrees depends on what the replacements bring about.

* `Engine.Objects`: some rule from a threshold on finds something in a message.
* `Message.Corrected`: what becomes of a message when replacements are made.
* `ReadsBack`: the messages of a fixed file are those of the file, as far as they were not replaced.
* `Exposed`: decorations were removed from a message, and a rule from the threshold on objects to
  what was under them.
* `reaches_corrected`: **if nothing is left, another check fails exactly where a message is
  exposed.**
-/

namespace LogStyle

open Sensitive (builtinPatterns)

/-! ## Messages of a file -/

/-- The messages of the logging calls of a file. -/
def SourceUnit.messages (unit : SourceUnit) (types : Resolver) : List Expr :=
  unit.calls.filterMap fun call => (LoggingApi.resolve? types call).map (·.expr)

@[inherit_doc SourceUnit.messages]
def ParsedFile.messages (file : ParsedFile) : List Expr :=
  file.checked.unit.messages file.checked.types.resolver

@[simp] theorem ParsedFile.path_checked (file : ParsedFile) :
    file.checked.unit.path = file.display := rfl

theorem Analysis.mem_violations {engine : Engine Rule} {files : List ParsedFile} {v : Violation} :
    v ∈ (Analysis.ofFiles engine files).result.violations ↔
      ∃ file ∈ files, ∃ m ∈ file.messages, v ∈ engine.checkMessage file.display m := by
  simp only [Analysis.ofFiles, Engine.checkAll, LintResult.sort, List.mem_mergeSort,
    List.flatMap_map, List.mem_flatMap]
  refine exists_congr fun file => and_congr_right fun _ => ?_
  rw [Engine.mem_check, ParsedFile.path_checked]
  simp only [ParsedFile.messages, SourceUnit.messages, List.mem_filterMap, Option.map_eq_some_iff]
  constructor
  · rintro ⟨call, hcall, argument, hargument, hv⟩
    exact ⟨_, ⟨call, hcall, argument, hargument, rfl⟩, hv⟩
  · rintro ⟨m, ⟨call, hcall, argument, hargument, rfl⟩, hv⟩
    exact ⟨call, hcall, argument, hargument, hv⟩

/-- The string literal that an expression is, parentheses aside. -/
def Expr.raw? (e : Expr) : Option String :=
  match e.stripParens with
  | .literal _ _ raw => some raw
  | _ => none

theorem Expr.raw?_eq_some {e : Expr} {raw : String} :
    e.raw? = some raw ↔ ∃ id span, e.stripParens = .literal id span raw := by
  unfold raw?
  split
  · simp_all
  · rename_i h
    simp only [reduceCtorEq, false_iff]
    rintro ⟨id, span, heq⟩
    exact h _ _ _ heq

theorem Message.fragments_of_raw? {e : Expr} {raw : String} (h : e.raw? = some raw) :
    fragments e = (Literal.value? raw).toList := by
  obtain ⟨id, span, h⟩ := Expr.raw?_eq_some.1 h
  exact fragments_of_stripParens h

namespace Engine

/-- Some rule from a threshold on finds something in a message. -/
def Objects (engine : Engine Rule) (threshold : Severity) (message : Expr) : Prop :=
  ∃ text index, (Message.fragments message)[index]? = some text ∧
    ∃ configured ∈ engine.rules, configured.rule.kind.appliesTo index = true ∧
      configured.rule.finds text = true ∧ configured.severity.reaches threshold = true

/-- What a rule finds in a fragment of a message is a violation. -/
theorem exists_violation {engine : Engine Rule} {message : Expr} {text : String} {index : Nat}
    {configured : ConfiguredRule Rule} (htext : (Message.fragments message)[index]? = some text)
    (hmem : configured ∈ engine.rules) (happlies : configured.rule.kind.appliesTo index = true)
    (hfinds : configured.rule.finds text = true) (file : String) :
    ∃ v ∈ engine.checkMessage file message,
      v.code = configured.rule.kind.code ∧ v.severity = configured.severity := by
  obtain ⟨finding, hfinding⟩ := Option.isSome_iff_exists.1 hfinds
  exact ⟨_, mem_checkMessage.2 ⟨text, index, htext,
    mem_checkFragment.2 ⟨configured, hmem, happlies, finding, hfinding, rfl⟩⟩, rfl, rfl⟩

theorem objects_iff {engine : Engine Rule} {threshold : Severity} {message : Expr} (file : String) :
    engine.Objects threshold message ↔
      ∃ v ∈ engine.checkMessage file message, v.severity.reaches threshold = true := by
  constructor
  · rintro ⟨text, index, htext, configured, hmem, happlies, hfinds, hreaches⟩
    obtain ⟨v, hv, -, hseverity⟩ := exists_violation htext hmem happlies hfinds file
    exact ⟨v, hv, hseverity ▸ hreaches⟩
  · rintro ⟨v, hv, hreaches⟩
    obtain ⟨text, index, htext, hv⟩ := mem_checkMessage.1 hv
    obtain ⟨configured, hmem, happlies, finding, hfinding, rfl⟩ := mem_checkFragment.1 hv
    rw [Rule.check?_eq] at hfinding
    exact ⟨text, index, htext, configured, hmem, happlies, by rw [Rule.finds, hfinding]; rfl, hreaches⟩

end Engine

theorem Analysis.reaches_iff {engine : Engine Rule} {files : List ParsedFile} {threshold : Severity} :
    (Analysis.ofFiles engine files).result.reaches threshold = true ↔
      ∃ file ∈ files, ∃ m ∈ file.messages, engine.Objects threshold m := by
  simp only [LintResult.reaches, List.any_eq_true, Analysis.mem_violations]
  constructor
  · rintro ⟨v, ⟨file, hfile, m, hm, hv⟩, hreaches⟩
    exact ⟨file, hfile, m, hm, (Engine.objects_iff file.display).2 ⟨v, hv, hreaches⟩⟩
  · rintro ⟨file, hfile, m, hm, hobjects⟩
    obtain ⟨v, hv, hreaches⟩ := (Engine.objects_iff file.display).1 hobjects
    exact ⟨v, ⟨file, hfile, m, hm, hv⟩, hreaches⟩

/-! ## Messages of a fixed file -/

/-- What becomes of a message when replacements are made: a message with no replacement at its place
keeps its texts, and another one becomes the literal that was written. -/
inductive Message.Corrected (made : List Replacement) (file : String) : Expr → Expr → Prop where
  | kept {m m'} : (∀ r ∈ made, r.location ≠ Location.ofSpan file m.span) →
      fragments m' = fragments m → Corrected made file m m'
  | replaced {m m' r} : r ∈ made → r.location = Location.ofSpan file m.span →
      m'.raw? = some r.newText → Corrected made file m m'

/-- The file with the replacements made. -/
def Fixes.corrected (violations : List Violation) (file : SourceFile) : SourceFile :=
  { file with
    text := (Edit.apply file.text ((FileFix.replacements violations file.display).map (·.1))).text }

/-- The messages of a fixed file are those of the file, as far as they were not replaced. Literals
cover some text, and messages at one place are the same literal, if they are literals. -/
structure ReadsBack (violations : List Violation) (file fixed : ParsedFile) : Prop where
  nonempty : ∀ m ∈ file.messages, m.raw?.isSome = true → 0 < m.span.length
  apart : ∀ m ∈ file.messages, ∀ n ∈ file.messages,
    Location.ofSpan file.display m.span = Location.ofSpan file.display n.span → m.raw? = n.raw?
  forth : ∀ m ∈ file.messages, ∃ m' ∈ fixed.messages,
    Message.Corrected (Fixes.made violations file.toSourceFile) file.display m m'
  back : ∀ m' ∈ fixed.messages, ∃ m ∈ file.messages,
    Message.Corrected (Fixes.made violations file.toSourceFile) file.display m m'

/-- The decorations of a message were removed, and a rule from the threshold on objects to what was
under them. -/
structure Exposed (engine : Engine Rule) (threshold : Severity) (violations : List Violation)
    (file : SourceFile) (m : Expr) (text : String) : Prop where
  literal : m.raw?.bind Literal.value? = some text
  written : ⟨Location.ofSpan file.display m.span,
    Literal.quote (String.ofList (Special.strip text.toList))⟩ ∈ Fixes.made violations file
  objects : ∃ configured ∈ engine.rules, Rule.Exposes .noSpecialChars configured.rule ∧
    configured.rule.finds (String.ofList (Special.strip text.toList)) = true ∧
    configured.severity.reaches threshold = true

section

variable {engine : Engine Rule} {files files' : List ParsedFile} {file fixed : ParsedFile}
  {threshold : Severity} {m m' : Expr} {r : Replacement} {v : Violation}

/-- Files whose paths are told apart in reports. -/
def Apart (files : List ParsedFile) : Prop :=
  ∀ f ∈ files, ∀ g ∈ files, Path.same f.display g.display = true → f = g

theorem location_of_mem_checkMessage {ρ : Type} [MessageRule ρ] {engine : Engine ρ} {name : String}
    (h : v ∈ engine.checkMessage name m) :
    v.location = Location.ofSpan name m.span := by
  obtain ⟨text, index, -, h⟩ := Engine.mem_checkMessage.1 h
  obtain ⟨configured, -, -, finding, -, rfl⟩ := Engine.mem_checkFragment.1 h
  rfl

/-- A replacement that is made at the place of a message comes from a rule that corrects its
text. -/
theorem corrects_of_mem_made (hapart : Apart files) (hfile : file ∈ files)
    (hread : ReadsBack (Analysis.ofFiles engine files).result.violations file fixed)
    (hm : m ∈ file.messages)
    (hr : r ∈ Fixes.made (Analysis.ofFiles engine files).result.violations file.toSourceFile)
    (hl : r.location = Location.ofSpan file.display m.span) :
    ∃ i v, ∃ configured ∈ engine.rules, ∃ raw text fixed,
      Fixes.FixedIn (Analysis.ofFiles engine files).result.violations file.toSourceFile i ∧
      (Analysis.ofFiles engine files).result.violations[i]? = some v ∧ v.replacement? = some r ∧
      m.raw? = some raw ∧ Literal.value? raw = some text ∧ configured.rule.Corrects text fixed ∧
      v.code = configured.rule.kind.code ∧ r.newText = Literal.quote fixed := by
  obtain ⟨i, v, hi, hv, hsame, hvr⟩ := Fixes.exists_fixedIn hr
  obtain ⟨g, hg, n, hn, hvn⟩ := Analysis.mem_violations.1 (List.mem_of_getElem? hv)
  have hloc := location_of_mem_checkMessage hvn
  obtain rfl : g = file := hapart g hg file hfile (by rwa [hloc] at hsame)
  obtain ⟨configured, hmem, id, span, raw, text, fixed, hstrip, hraw, -, hcheck, -, -, hcode, rfl⟩ :=
    Engine.corrects_of_checkMessage hvn hvr
  have hn' : n.raw? = some raw := Expr.raw?_eq_some.2 ⟨id, span, hstrip⟩
  rw [hread.apart n hn m hm hl] at hn'
  exact ⟨i, v, configured, hmem, raw, text, fixed, hi, hv, hvr, hn', hraw, hcheck, hcode, rfl⟩

/-- If nothing is left, a violation from the threshold on is fixed in its file. -/
theorem fixedIn_of_left (hapart : Apart files) (hfile : file ∈ files) (hm : m ∈ file.messages)
    (hleft : Fixes.left (Analysis.ofFiles engine files)
      (Fixes.plan (Analysis.ofFiles engine files)) threshold = 0)
    (hv : v ∈ engine.checkMessage file.display m) (ht : v.severity.reaches threshold = true) :
    ∃ i r, Fixes.FixedIn (Analysis.ofFiles engine files).result.violations file.toSourceFile i ∧
      (Analysis.ofFiles engine files).result.violations[i]? = some v ∧ v.replacement? = some r ∧
      r ∈ Fixes.made (Analysis.ofFiles engine files).result.violations file.toSourceFile ∧
      r.location = Location.ofSpan file.display m.span := by
  obtain ⟨i, hi⟩ := List.getElem?_of_mem (Analysis.mem_violations.2 ⟨file, hfile, m, hm, hv⟩)
  obtain ⟨_, hmem, hfixed⟩ := Fixes.isFixed_iff.1 (Fixes.isFixed_of_left hleft hi ht)
  obtain ⟨g, hg, rfl⟩ := List.mem_map.1 hmem
  obtain ⟨w, r, hw, hsame, hr, hmade⟩ := hfixed.made
  obtain rfl := Option.some.inj (hi.symm.trans hw)
  rw [location_of_mem_checkMessage hv] at hsame
  obtain rfl : file = g := hapart file hfile g hg hsame
  obtain ⟨_, _, _, _, _, _, _, _, _, _, _, _, _, _, hreq⟩ := Engine.corrects_of_checkMessage hv hr
  exact ⟨i, r, hfixed, hi, hr, hmade, congrArg Replacement.location hreq⟩

theorem fragments_of_quote {text : String} (h : m.raw? = some (Literal.quote text)) :
    Message.fragments m = [text] := by
  rw [Message.fragments_of_raw? h, Literal.value?_quote]
  rfl

/-- A rule of the threshold that objects to a corrected message was exposed. -/
theorem exposed_of_objects (hrules : (engine.rules.map (·.rule)).Sublist (Rule.all builtinPatterns))
    (hapart : Apart files) (hfile : file ∈ files)
    (hread : ReadsBack (Analysis.ofFiles engine files).result.violations file fixed)
    (hleft : Fixes.left (Analysis.ofFiles engine files)
      (Fixes.plan (Analysis.ofFiles engine files)) threshold = 0)
    (hm : m ∈ file.messages)
    (hc : Message.Corrected
      (Fixes.made (Analysis.ofFiles engine files).result.violations file.toSourceFile)
      file.display m m') (h : engine.Objects threshold m') :
    ∃ text, Exposed engine threshold (Analysis.ofFiles engine files).result.violations
      file.toSourceFile m text := by
  cases hc with
  | kept hno hfrag =>
    -- the rule objected before, so that a replacement was made after all
    have hobjects : engine.Objects threshold m := by
      obtain ⟨text, index, htext, h⟩ := h
      exact ⟨text, index, hfrag ▸ htext, h⟩
    obtain ⟨v, hv, ht⟩ := (Engine.objects_iff file.display).1 hobjects
    obtain ⟨-, r, -, -, -, hmade, hloc⟩ := fixedIn_of_left hapart hfile hm hleft hv ht
    exact absurd hloc (hno r hmade)
  | @replaced r hmade hloc hliteral =>
    obtain ⟨i, v, c₀, hc₀, raw, text, fixed, hi, hvi, hvr, hlit, hraw, hcorr, hcode, hnew⟩ :=
      corrects_of_mem_made hapart hfile hread hm hmade hloc
    rw [hnew] at hliteral
    obtain ⟨text', index, htext', c, hcmem, happlies, hfinds, hreaches⟩ := h
    rw [fragments_of_quote hliteral] at htext'
    obtain ⟨rfl, htext⟩ : index = 0 ∧ text' = fixed := by cases index <;> simp_all
    rw [htext] at hfinds
    have hr₀ := hrules.subset (List.mem_map_of_mem (f := (·.rule)) hc₀)
    have hr := hrules.subset (List.mem_map_of_mem (f := (·.rule)) hcmem)
    rcases Rule.finds_of_correction hr₀ hr hcorr hfinds with ⟨hbefore, hne⟩ | hexposes
    · -- both violations of the message are fixed, but only one of them can be
      have hfrag : (Message.fragments m)[0]? = some text := by
        rw [Message.fragments_of_raw? hlit, hraw]
        rfl
      obtain ⟨w, hw, hwcode, hwseverity⟩ :=
        Engine.exists_violation hfrag hcmem happlies hbefore file.display
      obtain ⟨j, s, hj, hwj, hws, -, hsloc⟩ :=
        fixedIn_of_left hapart hfile hm hleft hw (hwseverity ▸ hreaches)
      have hpos : 0 < r.location.length := hloc ▸ hread.nonempty m hm (by rw [hlit]; rfl)
      obtain rfl := hi.unique hj hvi hwj hvr hws (hloc.trans hsloc.symm) hpos
      obtain rfl := Option.some.inj (hvi.symm.trans hwj)
      exact absurd (Rule.eq_of_code hr hr₀ (hwcode.symm.trans hcode)) hne
    · rw [hexposes.eq] at hcorr hexposes
      obtain ⟨-, hfixed⟩ := Rule.corrects_noSpecialChars.1 hcorr
      have hstripped : String.ofList (Special.strip text.toList) = fixed := by
        rw [← hfixed, String.ofList_toList]
      refine ⟨text, by rw [hlit, Option.bind_some, hraw], ?_, c, hcmem, hexposes,
        hstripped ▸ hfinds, hreaches⟩
      rw [hstripped, ← hnew, ← hloc]
      exact hmade

theorem objects_of_exposed {text : String}
    (hread : ReadsBack (Analysis.ofFiles engine files).result.violations file fixed)
    (hm : m ∈ file.messages)
    (hc : Message.Corrected
      (Fixes.made (Analysis.ofFiles engine files).result.violations file.toSourceFile)
      file.display m m')
    (h : Exposed engine threshold (Analysis.ofFiles engine files).result.violations
      file.toSourceFile m text) :
    engine.Objects threshold m' := by
  obtain ⟨c, hcmem, hexposes, hfinds, hreaches⟩ := h.objects
  cases hc with
  | kept hno => exact absurd rfl (hno _ h.written)
  | @replaced r hmade hloc hliteral =>
    have hlit : m.raw?.isSome = true := by
      obtain ⟨raw, hraw, -⟩ := Option.bind_eq_some_iff.1 h.literal
      rw [hraw]
      rfl
    have hpos : 0 < r.location.length := hloc ▸ hread.nonempty m hm hlit
    obtain rfl := Fixes.eq_of_mem_made hmade h.written hloc hpos
    refine ⟨_, 0, by rw [fragments_of_quote hliteral]; rfl, c, hcmem, ?_, hfinds, hreaches⟩
    cases c.rule.kind <;> rfl

/-- **Another check of fixed files.** If the replacements leave nothing from the threshold on, then
another check finds something exactly where a message was exposed. -/
theorem reaches_corrected (hrules : (engine.rules.map (·.rule)).Sublist (Rule.all builtinPatterns))
    (hapart : Apart files)
    (hforth : ∀ file ∈ files, ∃ fixed ∈ files',
      ReadsBack (Analysis.ofFiles engine files).result.violations file fixed)
    (hback : ∀ fixed ∈ files', ∃ file ∈ files,
      ReadsBack (Analysis.ofFiles engine files).result.violations file fixed)
    (hleft : Fixes.left (Analysis.ofFiles engine files)
      (Fixes.plan (Analysis.ofFiles engine files)) threshold = 0) :
    (Analysis.ofFiles engine files').result.reaches threshold = true ↔
      ∃ file ∈ files, ∃ m ∈ file.messages, ∃ text, Exposed engine threshold
        (Analysis.ofFiles engine files).result.violations file.toSourceFile m text := by
  rw [Analysis.reaches_iff]
  constructor
  · rintro ⟨fixed, hfixed, m', hm', hobjects⟩
    obtain ⟨file, hfile, hread⟩ := hback fixed hfixed
    obtain ⟨m, hm, hc⟩ := hread.back m' hm'
    exact ⟨file, hfile, m, hm, exposed_of_objects hrules hapart hfile hread hleft hm hc hobjects⟩
  · rintro ⟨file, hfile, m, hm, text, h⟩
    obtain ⟨fixed, hfixed, hread⟩ := hforth file hfile
    obtain ⟨m', hm', hc⟩ := hread.forth m hm
    exact ⟨fixed, hfixed, m', hm', objects_of_exposed hread hm hc h⟩

end

end LogStyle
