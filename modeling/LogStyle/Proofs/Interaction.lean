import LogStyle.Proofs.Alphabets
import LogStyle.Proofs.Rewrites

/-!
# How corrections affect other rules

Each correction removes what its rule found. Beyond that only the removal of decorations can make
another rule speak up: it may uncover a capital or join the parts of a sensitive word.

* `Lowercase.occurs_lowered`, `Sensitive.occurs_map_toLower`: the case of a letter matters to
  neither decorations nor sensitive words.
* `Redacts.lowered?_eq_none`, `Redacts.occurs`: redaction uncovers no capital and no decoration.
* `Rule.finds_of_correction`: **what is found in a corrected text was found before**, by another
  rule, unless decorations were removed.
* `Rule.alphabet_of_correction`: **letters of another alphabet are found after a correction if and
  only if they were found before.**
-/

namespace LogStyle

/-! ## Lower case -/

namespace Lowercase

variable {cs out : List Char}

theorem visible?_lowered (h : lowered? cs = some out) :
    ∃ c : Char, c.isUpper = true ∧ Text.visible? out = some c.toLower := by
  obtain ⟨front, c, back, hc, -, rfl, hfront⟩ := lowered?_eq_some h
  refine ⟨c, hc, ?_⟩
  rw [visible?_append hfront, Text.visible?_cons, (Special.isPlain_iff.1 (isPlain_toLower hc)).1]
  rfl

theorem lowered?_lowered (h : lowered? cs = some out) : lowered? out = none := by
  obtain ⟨c, hc, hv⟩ := visible?_lowered h
  rw [lowered?_eq_none, hv]
  exact isUpper_toLower hc

theorem occurs_lowered (h : lowered? cs = some out) : Special.occurs out = Special.occurs cs := by
  obtain ⟨front, c, back, hc, rfl, rfl, -⟩ := lowered?_eq_some h
  exact Special.occurs_append_cons (isPlain_toLower hc) (isPlain_of_isUpper hc) front back

theorem toLower_of_not_isUpper {c : Char} (hc : c.isUpper = false) : c.toLower = c := by
  unfold Char.toLower
  split
  · rename_i h
    exact absurd h (of_decide_eq_false hc)
  · rfl

theorem map_toLower_lowered (h : lowered? cs = some out) :
    out.map Char.toLower = cs.map Char.toLower := by
  obtain ⟨front, c, back, hc, rfl, rfl, -⟩ := lowered?_eq_some h
  simp [toLower_of_not_isUpper (isUpper_toLower hc)]

end Lowercase

/-! ## Keywords in any case -/

namespace Sensitive

open LogStyle.Pattern (Piece Spells StandsAlone isIn)

theorem mem_toLower {ps : List Piece} (hps : ps ∈ keywords) {p : Piece} (hp : p ∈ ps) (c : Char) :
    p.set.mem c.toLower = p.set.mem c := by
  cases hc : c.isUpper with
  | false => rw [Lowercase.toLower_of_not_isUpper hc]
  | true =>
    let P (c : Char) := keywords.all fun ps => ps.all fun p => p.set.mem c.toLower == p.set.mem c
    have h : P c = true := Lowercase.of_isUpper (by decide +kernel) hc
    exact eq_of_beq (List.all_eq_true.1 (List.all_eq_true.1 h ps hps) p hp)

theorem isIn_map_toLower (c : Option Char) :
    isIn Text.wordSet (c.map Char.toLower) = isIn Text.wordSet c := by
  cases c with
  | none => rfl
  | some c =>
    cases hc : c.isUpper with
    | false => rw [Option.map_some, Lowercase.toLower_of_not_isUpper hc]
    | true =>
      have h := Lowercase.of_isUpper
        (P := fun c => Text.isWordChar c.toLower == Text.isWordChar c) (by decide +kernel) hc
      exact eq_of_beq h

theorem spells_map_toLower {ps : List Piece}
    (hps : ∀ p ∈ ps, ∀ c : Char, p.set.mem c.toLower = p.set.mem c) {w : List Char} :
    Spells ps (w.map Char.toLower) ↔ Spells ps w := by
  constructor
  · generalize hv : w.map Char.toLower = v
    intro h
    induction h generalizing w with
    | nil => rw [List.map_eq_nil_iff.1 hv]; exact .nil
    | letter hx _ ih =>
      obtain ⟨c, w, rfl, rfl, rfl⟩ := List.map_eq_cons_iff.1 hv
      exact .letter (hps _ List.mem_cons_self c ▸ hx) (ih (fun p hp => hps p (.tail _ hp)) rfl)
    | taken hx _ ih =>
      obtain ⟨c, w, rfl, rfl, rfl⟩ := List.map_eq_cons_iff.1 hv
      exact .taken (hps _ List.mem_cons_self c ▸ hx) (ih (fun p hp => hps p (.tail _ hp)) rfl)
    | omitted _ ih => exact .omitted (ih (fun p hp => hps p (.tail _ hp)) hv)
  · intro h
    induction h with
    | nil => exact .nil
    | letter hx _ ih =>
      exact .letter ((hps _ List.mem_cons_self _).trans hx) (ih fun p hp => hps p (.tail _ hp))
    | taken hx _ ih =>
      exact .taken ((hps _ List.mem_cons_self _).trans hx) (ih fun p hp => hps p (.tail _ hp))
    | omitted _ ih => exact .omitted (ih fun p hp => hps p (.tail _ hp))

/-- **Sensitive words are found in any case.** -/
theorem occurs_map_toLower (text : List Char) :
    occurs builtinPatterns (text.map Char.toLower) = occurs builtinPatterns text := by
  rw [occurs, occurs, Bool.eq_iff_iff, List.any_eq_true, List.any_eq_true]
  refine exists_congr fun p => and_congr_right fun hp => ?_
  obtain ⟨ps, hps, hreg⟩ := exists_keyword hp
  have hword := isWord_of_mem hps
  -- a stretch stands alone in any case or in none
  have halone : ∀ {front w back : List Char},
      StandsAlone ps (front.map Char.toLower).getLast? (w.map Char.toLower) (back.map Char.toLower) ↔
        StandsAlone ps front.getLast? w back := by
    intro front w back
    have hspells := spells_map_toLower (w := w) fun p hp => mem_toLower hps hp
    constructor
    · rintro ⟨hw, hb, ha⟩
      rw [List.getLast?_map, isIn_map_toLower] at hb
      rw [List.head?_map, isIn_map_toLower] at ha
      exact ⟨hspells.1 hw, hb, ha⟩
    · rintro ⟨hw, hb, ha⟩
      refine ⟨hspells.2 hw, ?_, ?_⟩
      · rwa [List.getLast?_map, isIn_map_toLower]
      · rwa [List.head?_map, isIn_map_toLower]
  rw [Pattern.isMatch, Pattern.isMatch, hreg, Pattern.isMatch_keyword hword,
    Pattern.isMatch_keyword hword]
  constructor
  · rintro ⟨front', w', back', htext, hs⟩
    obtain ⟨front, rest, rfl, rfl, hrest⟩ := List.map_eq_append_iff.1 htext
    obtain ⟨w, back, rfl, rfl, rfl⟩ := List.map_eq_append_iff.1 hrest
    exact ⟨front, w, back, rfl, halone.1 hs⟩
  · rintro ⟨front, w, back, rfl, hs⟩
    exact ⟨front.map Char.toLower, w.map Char.toLower, back.map Char.toLower, by simp, halone.2 hs⟩

/-! ## Redaction -/

namespace Redacts

variable {ps : List Piece} {before : Option Char} {text out : List Char}

/-- A redacted text starts as the text does, or with a token. -/
theorem visible? (h : Redacts ps before text out) :
    Text.visible? out = Text.visible? text ∨ Text.visible? out = some '[' := by
  induction h with
  | nil => exact Or.inl rfl
  | keep _ _ ih =>
    rw [Text.visible?_cons, Text.visible?_cons]
    split
    · exact ih
    · exact Or.inl rfl
  | cut => exact Or.inr rfl

theorem lowered?_eq_none (h : Redacts ps before text out) (ht : Lowercase.lowered? text = none) :
    Lowercase.lowered? out = none := by
  rw [Lowercase.lowered?_eq_none] at ht ⊢
  rcases h.visible? with hv | hv
  · rwa [hv]
  · rw [hv]; rfl

theorem mem (h : Redacts ps before text out) {c : Char} (hc : c ∈ out) :
    c ∈ redacted.toList ∨ c ∈ text := by
  induction h with
  | nil => exact Or.inr hc
  | keep _ _ ih =>
    rcases List.mem_cons.1 hc with rfl | hc
    · exact Or.inr List.mem_cons_self
    · exact (ih hc).imp_right (List.mem_cons_of_mem _)
  | cut _ _ ih =>
    rcases List.mem_append.1 hc with hc | hc
    · exact Or.inl hc
    · exact (ih hc).imp_right (List.mem_append_right _)

/-- Dots that stand together after a redaction stood together before, as no dot is part of a
token. -/
theorem ellipsis (h : Redacts ps before text out) (he : Special.ellipsis <:+: out) :
    Special.ellipsis <:+: text := by
  induction h with
  | nil => exact he
  | @keep before c rest out hno h ih =>
    rcases List.infix_cons_iff.1 he with ⟨back, hback⟩ | he
    · obtain ⟨rfl, rfl⟩ := List.cons.inj hback
      obtain ⟨back, rfl, -⟩ := h.of_append (u := ['.', '.']) (by decide)
      exact ⟨[], back, rfl⟩
    · exact List.infix_cons (ih he)
  | @cut before w rest out hs h ih =>
    -- the closing bracket keeps dots behind the token apart from it
    have htoken : redacted.toList ++ out = ['[', 'r', 'e', 'd', 'a', 'c', 't', 'e', 'd'] ++ ']' :: out := rfl
    rw [htoken, infix_append_cons (by decide)] at he
    rcases he with he | he
    · exact absurd he (by decide)
    · exact List.infix_append_of_infix_right (ih he)

theorem occurs (h : Redacts ps before text out) (ht : Special.occurs text = false) :
    Special.occurs out = false := by
  rw [Bool.eq_false_iff, Ne, Special.occurs_iff] at ht ⊢
  rintro (he | ⟨c, hc, hs⟩)
  · exact ht (Or.inl (h.ellipsis he))
  · rcases h.mem hc with hc | hc
    · have htoken : redacted.toList.all (!Special.isSpecial ·) = true := by decide
      have hc := List.all_eq_true.1 htoken c hc
      rw [hs] at hc
      cases hc
    · exact ht (Or.inr ⟨c, hc, hs⟩)

theorem ne_nil (h : Redacts ps before text out) (ht : text ≠ []) : out ≠ [] := by
  cases h with
  | nil => exact absurd rfl ht
  | keep => exact List.cons_ne_nil _ _
  | cut => exact List.cons_ne_nil _ _

end Redacts

variable {text : List Char}

theorem lowered?_redact (h : Lowercase.lowered? text = none) :
    Lowercase.lowered? (redact builtinPatterns text) = none :=
  redact_preserves (fun _ _ _ _ hr ht => hr.lowered?_eq_none ht) h

theorem occurs_redact (h : Special.occurs text = false) :
    Special.occurs (redact builtinPatterns text) = false :=
  redact_preserves (fun _ _ _ _ hr ht => hr.occurs ht) h

/-- A text with a sensitive word is not empty without it. -/
theorem redact_ne_nil (h : occurs builtinPatterns text = true) : redact builtinPatterns text ≠ [] := by
  obtain ⟨c, hc, -⟩ := exists_isPlain h
  exact redact_preserves (P := (· ≠ [])) (fun _ _ _ _ hr ht => hr.ne_nil ht) (List.ne_nil_of_mem hc)

end Sensitive

/-! ## Findings in corrected texts -/

theorem RuleKind.eq_of_code {a b : RuleKind} (h : a.code = b.code) : a = b := by
  cases a <;> cases b <;> first | rfl | simp [RuleKind.code] at h

namespace Rule

open Sensitive (builtinPatterns)

variable {text fixed : String}

theorem mem_all {patterns : List Sensitive.Pattern} {rule : Rule} : rule ∈ all patterns ↔
    rule = lowercaseStart ∨ rule = englishOnly ∨ rule = noSpecialChars ∨
      rule = noSensitiveData patterns := by
  simp [all, RuleKind.all, ofKind]

theorem eq_of_code {patterns : List Sensitive.Pattern} {a b : Rule} (ha : a ∈ all patterns)
    (hb : b ∈ all patterns) (h : a.kind.code = b.kind.code) : a = b := by
  have hk := RuleKind.eq_of_code h
  rcases mem_all.1 ha with rfl | rfl | rfl | rfl <;> rcases mem_all.1 hb with rfl | rfl | rfl | rfl <;>
    first | rfl | cases hk

/-- Whether a rule finds something in a text. -/
def finds (rule : Rule) (text : String) : Bool := (rule.check? text).isSome

theorem finds_lowercaseStart :
    lowercaseStart.finds text = false ↔ Lowercase.lowered? text.toList = none := by
  simp [finds, check?]

theorem finds_englishOnly :
    englishOnly.finds text = text.toList.any Text.isForeignLetter := by
  cases h : text.toList.any Text.isForeignLetter <;> simp [finds, check?, h]

theorem finds_noSpecialChars : noSpecialChars.finds text = Special.occurs text.toList := by
  cases h : Special.occurs text.toList <;> simp [finds, check?, h]

theorem finds_noSensitiveData {patterns : List Sensitive.Pattern} :
    (noSensitiveData patterns).finds text = Sensitive.occurs patterns text.toList := by
  cases h : Sensitive.occurs patterns text.toList <;> simp [finds, check?, h]

/-- The rule finds something in a text and knows a corrected text. -/
def Corrects (rule : Rule) (text fixed : String) : Prop :=
  rule.check? text = some ⟨text, some fixed⟩

theorem corrects_lowercaseStart :
    lowercaseStart.Corrects text fixed ↔ Lowercase.lowered? text.toList = some fixed.toList := by
  simp only [Corrects, check?, Option.map_eq_some_iff, Finding.mk.injEq, Option.some.injEq, true_and]
  constructor
  · rintro ⟨out, hout, rfl⟩; simpa using hout
  · exact fun h => ⟨_, h, by simp⟩

theorem not_corrects_englishOnly : ¬englishOnly.Corrects text fixed := by
  simp [Corrects, check?]

theorem corrects_noSpecialChars : noSpecialChars.Corrects text fixed ↔
    Special.occurs text.toList = true ∧ fixed.toList = Special.strip text.toList := by
  simp only [Corrects, check?, Option.ite_none_right_eq_some, Option.some.injEq, Finding.mk.injEq,
    true_and]
  refine and_congr_right fun _ => ⟨?_, ?_⟩
  · rintro rfl; simp
  · intro h; rw [← h, String.ofList_toList]

theorem corrects_noSensitiveData {patterns : List Sensitive.Pattern} :
    (noSensitiveData patterns).Corrects text fixed ↔
      Sensitive.occurs patterns text.toList = true ∧
        fixed.toList = Sensitive.redact patterns text.toList := by
  simp only [Corrects, check?, Option.ite_none_right_eq_some, Option.some.injEq, Finding.mk.injEq,
    true_and]
  refine and_congr_right fun _ => ⟨?_, ?_⟩
  · rintro rfl; simp
  · intro h; rw [← h, String.ofList_toList]

/-- **A correction keeps the letters of other alphabets.** -/
theorem filter_of_corrects {rule : Rule} (hr : rule ∈ all builtinPatterns)
    (h : rule.Corrects text fixed) :
    fixed.toList.filter Text.isForeignLetter = text.toList.filter Text.isForeignLetter := by
  rcases mem_all.1 hr with rfl | rfl | rfl | rfl
  · exact Lowercase.filter_lowered (corrects_lowercaseStart.1 h)
  · exact absurd h not_corrects_englishOnly
  · rw [(corrects_noSpecialChars.1 h).2, Special.filter_strip]
  · rw [(corrects_noSensitiveData.1 h).2, Sensitive.filter_redact]

theorem finds_englishOnly_of_corrects {rule : Rule} (hr : rule ∈ all builtinPatterns)
    (h : rule.Corrects text fixed) : englishOnly.finds fixed = englishOnly.finds text := by
  rw [finds_englishOnly, finds_englishOnly, Bool.eq_iff_iff, List.any_eq_true, List.any_eq_true]
  simp only [← List.mem_filter, filter_of_corrects hr h]

/-- The removal of decorations may make another rule find something. -/
inductive Exposes : Rule → Rule → Prop where
  | capital : Exposes noSpecialChars lowercaseStart
  | word : Exposes noSpecialChars (noSensitiveData builtinPatterns)

theorem Exposes.eq {rule other : Rule} (h : Exposes rule other) : rule = noSpecialChars := by
  cases h <;> rfl

theorem lowercaseStart_correction {other : Rule} (ho : other ∈ all builtinPatterns)
    (h : lowercaseStart.Corrects text fixed) (hf : other.finds fixed = true) :
    other.finds text = true ∧ other ≠ lowercaseStart := by
  have hlowered := corrects_lowercaseStart.1 h
  rcases mem_all.1 ho with rfl | rfl | rfl | rfl
  · rw [finds_lowercaseStart.2 (Lowercase.lowered?_lowered hlowered)] at hf
    cases hf
  · rw [finds_englishOnly_of_corrects (mem_all.2 (.inl rfl)) h] at hf
    exact ⟨hf, by simp⟩
  · rw [finds_noSpecialChars] at hf ⊢
    exact ⟨Lowercase.occurs_lowered hlowered ▸ hf, by simp⟩
  · rw [finds_noSensitiveData, ← Sensitive.occurs_map_toLower,
      Lowercase.map_toLower_lowered hlowered, Sensitive.occurs_map_toLower] at hf
    exact ⟨finds_noSensitiveData.trans hf, by simp⟩

theorem noSpecialChars_correction {other : Rule} (ho : other ∈ all builtinPatterns)
    (h : noSpecialChars.Corrects text fixed) (hf : other.finds fixed = true) :
    other.finds text = true ∧ other ≠ noSpecialChars ∨ Exposes noSpecialChars other := by
  obtain ⟨-, hfixed⟩ := corrects_noSpecialChars.1 h
  rcases mem_all.1 ho with rfl | rfl | rfl | rfl
  · exact Or.inr .capital
  · rw [finds_englishOnly_of_corrects (mem_all.2 (.inr (.inr (.inl rfl)))) h] at hf
    exact Or.inl ⟨hf, by simp⟩
  · rw [finds_noSpecialChars, hfixed, Special.not_occurs_strip] at hf
    cases hf
  · exact Or.inr .word

theorem noSensitiveData_correction {other : Rule} (ho : other ∈ all builtinPatterns)
    (h : (noSensitiveData builtinPatterns).Corrects text fixed) (hf : other.finds fixed = true) :
    other.finds text = true ∧ other ≠ noSensitiveData builtinPatterns := by
  obtain ⟨-, hfixed⟩ := corrects_noSensitiveData.1 h
  rcases mem_all.1 ho with rfl | rfl | rfl | rfl
  · refine ⟨?_, by simp⟩
    cases ht : lowercaseStart.finds text with
    | true => rfl
    | false =>
      rw [finds_lowercaseStart] at ht
      rw [finds_lowercaseStart.2 (hfixed ▸ Sensitive.lowered?_redact ht)] at hf
      cases hf
  · rw [finds_englishOnly_of_corrects (mem_all.2 (.inr (.inr (.inr rfl)))) h] at hf
    exact ⟨hf, by simp⟩
  · refine ⟨?_, by simp⟩
    rw [finds_noSpecialChars, hfixed] at hf
    cases ht : noSpecialChars.finds text with
    | true => rfl
    | false =>
      rw [finds_noSpecialChars] at ht
      rw [Sensitive.occurs_redact ht] at hf
      cases hf
  · rw [finds_noSensitiveData, hfixed, Sensitive.not_occurs_redact] at hf
    cases hf

/-- **What is found in a corrected text was found before**, by another rule, unless decorations were
removed and a capital or a sensitive word came out. -/
theorem finds_of_correction {rule other : Rule} (hr : rule ∈ all builtinPatterns)
    (ho : other ∈ all builtinPatterns) (h : rule.Corrects text fixed)
    (hf : other.finds fixed = true) :
    other.finds text = true ∧ other ≠ rule ∨ Exposes rule other := by
  rcases mem_all.1 hr with rfl | rfl | rfl | rfl
  · exact Or.inl (lowercaseStart_correction ho h hf)
  · exact absurd h not_corrects_englishOnly
  · exact noSpecialChars_correction ho h hf
  · exact Or.inl (noSensitiveData_correction ho h hf)

/-- **Corrections neither hide nor create letters of another alphabet.** With the built-in patterns,
a corrected text has such a letter if and only if the text has one. -/
theorem alphabet_of_correction :
    ∃ patterns, Sensitive.compileWithBuiltins Pattern.ofText? [] = .ok patterns ∧
    ∀ rule ∈ all patterns, ∀ text finding fixed, rule.check? text = some finding →
      finding.fixed = some fixed →
      fixed.toList.any Text.isForeignLetter = text.toList.any Text.isForeignLetter := by
  refine ⟨builtinPatterns, Sensitive.compile_builtins, ?_⟩
  rintro rule hr text ⟨original, _⟩ fixed hfinding rfl
  obtain rfl : original = text := text_of_check? hfinding
  rw [← finds_englishOnly, ← finds_englishOnly]
  exact finds_englishOnly_of_corrects hr hfinding

/-- A message in two alphabets that each of three rules corrects. -/
theorem alphabet_of_correction_mixed :
    ∃ patterns, Sensitive.compileWithBuiltins Pattern.ofText? [] = .ok patterns ∧
      ∀ rule ∈ [lowercaseStart, noSpecialChars, noSensitiveData patterns], ∃ finding fixed,
        rule.check? "Token \u043a!" = some finding ∧ finding.fixed = some fixed ∧
        fixed.toList.any Text.isForeignLetter = "Token \u043a!".toList.any Text.isForeignLetter := by
  obtain ⟨patterns, hpatterns, h⟩ := alphabet_of_correction
  obtain rfl : builtinPatterns = patterns :=
    Except.ok.inj (Sensitive.compile_builtins.symm.trans hpatterns)
  refine ⟨_, hpatterns, fun rule hrule => ?_⟩
  have hall : ([lowercaseStart, noSpecialChars, noSensitiveData builtinPatterns].all fun rule =>
      ((rule.check? "Token \u043a!").bind (·.fixed)).isSome) = true := by decide +kernel
  obtain ⟨fixed, hboth⟩ := Option.isSome_iff_exists.1 (List.all_eq_true.1 hall rule hrule)
  obtain ⟨finding, hfinding, hfixed⟩ := Option.bind_eq_some_iff.1 hboth
  have hmem : rule ∈ all builtinPatterns := by
    simp only [List.mem_cons, List.not_mem_nil, or_false] at hrule
    exact mem_all.2 (hrule.imp_right Or.inr)
  exact ⟨finding, fixed, hfinding, hfixed, h rule hmem _ finding fixed hfinding hfixed⟩

end Rule

end LogStyle
