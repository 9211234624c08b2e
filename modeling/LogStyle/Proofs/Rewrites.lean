import LogStyle.Engine
import LogStyle.Proofs.Codec

/-!
# Where replacements come from

* `mem_check`, `mem_checkMessage`: a violation is what some rule found in some fragment of the
  message of some logging call.
* `replacement?_ofFinding`: when a finding becomes a replacement.
* `checkMessage_literal`: a message that is one literal has one fragment, its value.
* `replacement_sound`: **a replacement takes the place of one whole literal, and the text written is
  the one that a rule proposes for the text read.**
-/

namespace LogStyle

/-! ## Messages that are one literal -/

namespace Expr

theorem isLiteral_iff {e : Expr} :
    e.isLiteral = true ↔ ∃ id span raw, e.stripParens = .literal id span raw := by
  unfold isLiteral
  split
  · rename_i id span raw h
    exact ⟨fun _ => ⟨id, span, raw, h⟩, fun _ => rfl⟩
  · rename_i h
    simp only [Bool.false_eq_true, false_iff]
    rintro ⟨id, span, raw, he⟩
    exact h id span raw he

/-- One literal in parentheses has no other parts. -/
theorem nodes_of_stripParens {id : NodeId} {span : Span} {raw : String} {e : Expr}
    (h : e.stripParens = .literal id span raw) :
    ∀ node ∈ e.nodes, node = .literal id span raw ∨ ∃ id span inner, node = .paren id span inner := by
  fun_induction stripParens e with
  | case1 i s inner ih =>
    intro node hn
    rw [nodes, List.mem_cons] at hn
    rcases hn with rfl | hn
    · exact Or.inr ⟨i, s, inner, rfl⟩
    · exact ih h node hn
  | case2 e =>
    subst h
    intro node hn
    rw [nodes, List.mem_singleton] at hn
    exact Or.inl hn

end Expr

namespace Message

theorem fragments_of_stripParens {id : NodeId} {span : Span} {raw : String} {e : Expr}
    (h : e.stripParens = .literal id span raw) : fragments e = (Literal.value? raw).toList := by
  fun_induction Expr.stripParens e with
  | case1 _ _ inner ih => exact ih h
  | case2 e => rw [h, fragments]

end Message

/-! ## Findings and violations -/

/-- A finding keeps the text that was judged. -/
theorem Rule.text_of_check? {rule : Rule} {text : String} {finding : Finding}
    (h : rule.check? text = some finding) : finding.text = text := by
  cases rule with
  | lowercaseStart =>
    obtain ⟨fixed, -, rfl⟩ := Option.map_eq_some_iff.1 h
    rfl
  | englishOnly | noSpecialChars | noSensitiveData =>
    simp only [check?, Option.ite_none_right_eq_some, Option.some.injEq] at h
    rw [← h.2]

theorem Finding.proposal?_eq_some {finding : Finding} {fixed : String} :
    finding.proposal? = some fixed ↔
      finding.fixed = some fixed ∧ fixed ≠ "" ∧ fixed ≠ finding.text := by
  simp [proposal?, Option.filter_eq_some_iff]

theorem Violation.replacement?_ofFinding {ρ : Type} [MessageRule ρ] (file : String)
    (message : Expr) (rule : ρ) (severity : Severity) (finding : Finding) (replaceable : Bool) :
    (Violation.ofFinding file message rule severity finding replaceable).replacement? =
      if replaceable then
        finding.proposal?.map (⟨Location.ofSpan file message.span, Literal.quote ·⟩)
      else none := by
  cases replaceable with
  | false => rfl
  | true => cases h : finding.proposal? <;> simp [replacement?, ofFinding, h]

namespace Engine

section

variable {ρ : Type} [MessageRule ρ] {engine : Engine ρ} {file : String} {message : Expr}
  {unit : SourceUnit} {types : Resolver} {v : Violation}

theorem mem_check : v ∈ engine.check unit types ↔
    ∃ call ∈ unit.calls, ∃ argument, LoggingApi.resolve? types call = some argument ∧
      v ∈ engine.checkMessage unit.path argument.expr := by
  simp only [check, List.mem_flatMap, checkCall]
  refine exists_congr fun call => and_congr_right fun _ => ?_
  cases LoggingApi.resolve? types call with
  | none => simp
  | some argument => simp

theorem mem_checkFragment {text : String} {index : Nat} :
    v ∈ engine.checkFragment file message text index ↔
      ∃ configured ∈ engine.rules, MessageRule.appliesTo configured.rule index = true ∧
        ∃ finding, MessageRule.check? configured.rule text index = some finding ∧
          v = .ofFinding file message configured.rule configured.severity finding
            message.isLiteral := by
  simp only [checkFragment, List.mem_filterMap]
  refine exists_congr fun configured => and_congr_right fun _ => ?_
  split
  · rename_i ha
    rw [Option.map_eq_some_iff]
    simp only [ha, true_and, Message.isReplaceable, eq_comm (a := v)]
  · rename_i ha
    simp [ha]

theorem mem_checkMessage : v ∈ engine.checkMessage file message ↔
    ∃ text index, (Message.fragments message)[index]? = some text ∧
      v ∈ engine.checkFragment file message text index := by
  simp only [checkMessage, List.mem_flatMap, Prod.exists, List.mem_zipIdx_iff_getElem?]

/-- A message that is one literal is judged once, by its value. -/
theorem checkMessage_literal {id : NodeId} {span : Span} {raw text : String}
    (h : message.stripParens = .literal id span raw) (ht : Literal.value? raw = some text) :
    engine.checkMessage file message = engine.checkFragment file message text 0 := by
  rw [checkMessage, Message.fragments_of_stripParens h, ht]
  simp

end

/-! ## Soundness -/

variable {engine : Engine Rule} {file : String} {message : Expr} {unit : SourceUnit} {types : Resolver}
  {v : Violation}

/-- What makes a replacement sound for a message: the message is one literal in parentheses and
nothing else, the replacement covers it whole, and what is written reads as the text `fixed` that
some rule proposes for the text of the literal, as the first fragment. -/
structure Rewrites (engine : Engine Rule) (file : String) (message : Expr) (r : Replacement)
    (raw text fixed : String) : Prop where
  literal : ∃ id span, message.stripParens = .literal id span raw ∧
    ∀ node ∈ message.nodes, node = .literal id span raw ∨ ∃ id span inner, node = .paren id span inner
  read : Literal.value? raw = some text
  location : r.location = Location.ofSpan file message.span
  written : Literal.value? r.newText = some fixed
  proposed : ∃ configured ∈ engine.rules, configured.rule.kind.appliesTo 0 = true ∧
    configured.rule.check? text = some ⟨text, some fixed⟩
  nonempty : fixed ≠ ""
  changed : fixed ≠ text

/-- A replacement comes from a rule that corrects the text of the literal. -/
theorem corrects_of_checkMessage {r : Replacement} (hv : v ∈ engine.checkMessage file message)
    (hr : v.replacement? = some r) :
    ∃ configured ∈ engine.rules, ∃ id span raw text fixed,
      message.stripParens = .literal id span raw ∧ Literal.value? raw = some text ∧
      configured.rule.kind.appliesTo 0 = true ∧
      configured.rule.check? text = some ⟨text, some fixed⟩ ∧ fixed ≠ "" ∧ fixed ≠ text ∧
      v.code = configured.rule.kind.code ∧
      r = ⟨Location.ofSpan file message.span, Literal.quote fixed⟩ := by
  obtain ⟨text, index, htext, hv⟩ := mem_checkMessage.1 hv
  obtain ⟨configured, hmem, happlies, finding, hfinding, rfl⟩ := mem_checkFragment.1 hv
  rw [Rule.check?_eq] at hfinding
  rw [Violation.replacement?_ofFinding, Option.ite_none_right_eq_some] at hr
  obtain ⟨hlit, hr⟩ := hr
  obtain ⟨fixed, hfixed, rfl⟩ := Option.map_eq_some_iff.1 hr
  obtain ⟨hfix, hne, hch⟩ := Finding.proposal?_eq_some.1 hfixed
  have hft := Rule.text_of_check? hfinding
  obtain ⟨id, span, raw, hstrip⟩ := Expr.isLiteral_iff.1 hlit
  -- the only fragment is the value of the literal
  rw [Message.fragments_of_stripParens hstrip] at htext
  obtain ⟨hraw, rfl⟩ : Literal.value? raw = some text ∧ index = 0 := by
    cases hval : Literal.value? raw with
    | none => simp [hval] at htext
    | some t => cases index <;> simp_all
  refine ⟨configured, hmem, id, span, raw, text, fixed, hstrip, hraw, happlies, ?_, hne, hft ▸ hch,
    rfl, rfl⟩
  rw [hfinding, ← hft, ← hfix]

theorem rewrites_of_checkMessage {r : Replacement} (hv : v ∈ engine.checkMessage file message)
    (hr : v.replacement? = some r) : ∃ raw text fixed, engine.Rewrites file message r raw text fixed := by
  obtain ⟨configured, hmem, id, span, raw, text, fixed, hstrip, hraw, happlies, hcheck, hne, hch, -,
    rfl⟩ := corrects_of_checkMessage hv hr
  exact ⟨raw, text, fixed, ⟨id, span, hstrip, Expr.nodes_of_stripParens hstrip⟩, hraw, rfl,
    Literal.value?_quote fixed, ⟨configured, hmem, happlies, hcheck⟩, hne, hch⟩

/-- **Replacements are sound.** A violation that carries a replacement comes from a logging call
whose message is one literal, parentheses aside, and the replacement rewrites that message. -/
theorem replacement_sound {r : Replacement} (hv : v ∈ engine.check unit types)
    (hr : v.replacement? = some r) :
    ∃ call ∈ unit.calls, ∃ argument, LoggingApi.resolve? types call = some argument ∧
      ∃ raw text fixed, engine.Rewrites unit.path argument.expr r raw text fixed := by
  obtain ⟨call, hcall, argument, hargument, hv⟩ := mem_check.1 hv
  exact ⟨call, hcall, argument, hargument, rewrites_of_checkMessage hv hr⟩

/-- A literal with an escape, in parentheses. -/
theorem replacement_sound_escaped :
    ∃ (engine : Engine Rule) (unit : SourceUnit) (types : Resolver) (v : Violation) (r : Replacement),
      v ∈ engine.check unit types ∧ v.replacement? = some r ∧ r.newText = "\"hello\"" ∧
        ∃ call ∈ unit.calls, ∃ argument, LoggingApi.resolve? types call = some argument ∧
          ∃ raw text fixed, engine.Rewrites unit.path argument.expr r raw text fixed := by
  let unit : SourceUnit := ⟨"main.go", [.call 0 {} (.select 1 {} (.ident 2 {} "slog") ⟨3, "Info", {}⟩)
    [.paren 4 {} (.literal 5 {} "\"\\x48ello\"")]]⟩
  let types : Resolver :=
    { useOf := fun id => if id = 3 then some (.function (.function "log/slog" "Info")) else none
      selection := fun _ => none
      typeOf := fun id => if id = 5 then some .string else none }
  let engine : Engine Rule := ⟨[⟨.lowercaseStart, .warning⟩]⟩
  let r : Replacement := ⟨⟨"main.go", 0, 0, 0, 0⟩, "\"hello\""⟩
  have hc : (engine.check unit types).map Violation.replacement? = [some r] := by decide +kernel
  obtain ⟨v, hv, hr⟩ := List.mem_map.1 (hc ▸ List.mem_singleton_self (some r))
  exact ⟨engine, unit, types, v, r, hv, hr, rfl, replacement_sound hv hr⟩

end Engine

end LogStyle
