import LogStyle.Proofs.Alphabets
import LogStyle.Proofs.Rewrites
import LogStyle.Text.Category

/-!
# Characters that nobody sees

Control and format characters (general categories Cc and Cf) can change how source is shown, and
nobody sees that they are there. A literal escapes all control characters, but not all format
characters.

* `CodeSet.mem_iff`: in a sorted table the search finds every range.
* `Literal.exposedSet`: the format characters that no escape is for (`Literal.exposed_iff`).
* `Literal.mem_quote_iff`: **an unseen character is in a literal if and only if it is in the text and
  exposed.**
* `Literal.quote_shows_iff`: all characters of a literal are seen if its text has no exposed one.
* `Rule.mem_of_corrects`: no rule adds an unseen character.
* `Engine.replacement_shows`: **the unseen characters that a replacement writes are exposed ones of
  the message that it replaces.**
-/

namespace LogStyle

/-! ## Tables of characters -/

namespace CodeSet

variable {c : Char} {n : Nat} {rs ts : List (Nat × Nat)} {s : CodeSet}

/-- A table lists its ranges by their starts. -/
def isSorted (s : CodeSet) : Bool := decide (s.ranges.Pairwise fun r t => r.1 ≤ t.1)

theorem within_of_mem (hsorted : rs.Pairwise fun r t => r.1 ≤ t.1) {r : Nat × Nat} (hr : r ∈ rs)
    (hlo : r.1 ≤ n) (hhi : n ≤ r.2) : within rs n = true := by
  induction rs with
  | nil => cases hr
  | cons t rs ih =>
    obtain ⟨hfirst, hrest⟩ := List.pairwise_cons.1 hsorted
    unfold within
    rcases List.mem_cons.1 hr with rfl | hr
    · rw [if_neg (by omega), if_pos hhi]
    · have hle := hfirst r hr
      rw [if_neg (by omega)]
      split
      · rfl
      · exact ih hrest hr

/-- **In a sorted table the search finds every range.** -/
theorem mem_iff (hsorted : s.isSorted = true) :
    s.mem c = true ↔ ∃ r ∈ s.ranges, r.1 ≤ c.toNat ∧ c.toNat ≤ r.2 :=
  ⟨exists_range, fun ⟨_, hr, hlo, hhi⟩ => within_of_mem (of_decide_eq_true hsorted) hr hlo hhi⟩

/-- Whether each range of a list lies within a range of another one. -/
def covers (ts rs : List (Nat × Nat)) : Bool := rs.all fun r => ts.any fun t => t.1 ≤ r.1 && r.2 ≤ t.2

theorem exists_of_covers (h : covers ts rs = true) (hr : ∃ r ∈ rs, r.1 ≤ n ∧ n ≤ r.2) :
    ∃ t ∈ ts, t.1 ≤ n ∧ n ≤ t.2 := by
  obtain ⟨r, hr, hlo, hhi⟩ := hr
  obtain ⟨t, ht, hrt⟩ := List.any_eq_true.1 (List.all_eq_true.1 h r hr)
  rw [Bool.and_eq_true, decide_eq_true_eq, decide_eq_true_eq] at hrt
  exact ⟨t, ht, by omega, by omega⟩

end CodeSet

namespace Text

variable {c : Char}

/-- The control characters, general category Cc. -/
def isControl (c : Char) : Bool := (categorySet "cc").mem c

/-- The format characters, general category Cf. -/
def isFormat (c : Char) : Bool := (categorySet "cf").mem c

/-- Control and format characters: nobody sees them in a text. -/
def isUnseen (c : Char) : Bool := isControl c || isFormat c

def controlRanges : List (Nat × Nat) := [(0, 0x1f), (0x7f, 0x9f)]

def formatRanges : List (Nat × Nat) :=
  [(0xad, 0xad), (0x600, 0x605), (0x61c, 0x61c), (0x6dd, 0x6dd), (0x70f, 0x70f), (0x890, 0x891),
    (0x8e2, 0x8e2), (0x180e, 0x180e), (0x200b, 0x200f), (0x202a, 0x202e), (0x2060, 0x2064),
    (0x2066, 0x206f), (0xfeff, 0xfeff), (0xfff9, 0xfffb), (0x110bd, 0x110bd), (0x110cd, 0x110cd),
    (0x13430, 0x1343f), (0x1bca0, 0x1bca3), (0x1d173, 0x1d17a), (0xe0001, 0xe0001),
    (0xe0020, 0xe007f)]

theorem categorySet_control : categorySet "cc" = ⟨controlRanges⟩ := by decide +kernel

theorem categorySet_format : categorySet "cf" = ⟨formatRanges⟩ := by decide +kernel

theorem isUnseen_iff : isUnseen c = true ↔
    ∃ r ∈ controlRanges ++ formatRanges, r.1 ≤ c.toNat ∧ c.toNat ≤ r.2 := by
  rw [isUnseen, Bool.or_eq_true, isControl, isFormat, categorySet_control, categorySet_format,
    CodeSet.mem_iff (by decide), CodeSet.mem_iff (by decide)]
  simp only [List.mem_append, or_and_right, exists_or]

/-- The characters of the basic alphabet that are seen, and the space. -/
def isGraphic (c : Char) : Bool := 0x20 ≤ c.toNat && c.toNat ≤ 0x7e

theorem isUnseen_of_isGraphic (h : isGraphic c = true) : isUnseen c = false := by
  have hapart : CodeSet.apart (controlRanges ++ formatRanges) [(0x20, 0x7e)] = true := by
    decide
  refine Bool.eq_false_iff.2 fun hunseen => ?_
  have hout := CodeSet.out_of_apart hapart (isUnseen_iff.1 hunseen) _ (List.mem_singleton_self _)
  rw [isGraphic, Bool.and_eq_true, decide_eq_true_eq, decide_eq_true_eq] at h
  omega

theorem isGraphic_of_isUnseen (h : isUnseen c = true) : isGraphic c = false := by
  refine Bool.eq_false_iff.2 fun hgraphic => ?_
  rw [isUnseen_of_isGraphic hgraphic] at h
  cases h

theorem isGraphic_hexDigits (width n : Nat) : (hexDigits width n).all isGraphic = true := by
  have hdigit : ∀ d < 16, isGraphic (hexDigit d) = true := by decide
  induction width generalizing n with
  | zero => rfl
  | succ width ih =>
    rw [hexDigits, List.all_append, ih, Bool.true_and, List.all_cons, List.all_nil, Bool.and_true]
    exact hdigit _ (Nat.mod_lt _ (by decide))

end Text

/-! ## Literals -/

namespace Literal

open Text

variable {c d : Char}

/-- The code points of the characters that are written with an escape, quotes and backslashes aside. -/
def escapedRanges : List (Nat × Nat) :=
  [(0, 0x1f), (0x7f, 0x9f), (0xad, 0xad), (0x200b, 0x200f), (0x2028, 0x202e), (0x2060, 0x2064),
    (0xfeff, 0xfeff)]

/-- The format characters that are written as they are: marks of numbers and verses, the isolates
and other directional marks of 2066 to 206f, annotations, and the controls of some scripts, of
shorthand, of musical notation and of tags. -/
def exposedSet : CodeSet := ⟨[
  (0x600, 0x605), (0x61c, 0x61c), (0x6dd, 0x6dd), (0x70f, 0x70f), (0x890, 0x891), (0x8e2, 0x8e2),
  (0x180e, 0x180e), (0x2066, 0x206f), (0xfff9, 0xfffb), (0x110bd, 0x110bd), (0x110cd, 0x110cd),
  (0x13430, 0x1343f), (0x1bca0, 0x1bca3), (0x1d173, 0x1d17a), (0xe0001, 0xe0001),
  (0xe0020, 0xe007f)]⟩

theorem isInvisible_iff :
    isInvisible c = true ↔ ∃ r ∈ escapedRanges, r.1 ≤ c.toNat ∧ c.toNat ≤ r.2 := by
  simp only [isInvisible, escapedRanges, Bool.or_eq_true, Bool.and_eq_true, decide_eq_true_eq,
    List.exists_mem_cons_iff, List.not_mem_nil, false_and, exists_false, or_false]
  omega

/-- **The exposed characters are those that nobody sees and no escape is for.** -/
theorem exposed_iff :
    exposedSet.mem c = true ↔ isUnseen c = true ∧ isInvisible c = false := by
  constructor
  · intro h
    have hcovers : CodeSet.covers (controlRanges ++ formatRanges) exposedSet.ranges = true := by
      decide
    have hapart : CodeSet.apart exposedSet.ranges escapedRanges = true := by decide
    have hr := CodeSet.exists_range h
    refine ⟨isUnseen_iff.2 (CodeSet.exists_of_covers hcovers hr), Bool.eq_false_iff.2 fun hi => ?_⟩
    obtain ⟨t, ht, hlo, hhi⟩ := isInvisible_iff.1 hi
    have := CodeSet.out_of_apart hapart hr t ht
    omega
  · rintro ⟨hunseen, hseen⟩
    have hcovers : CodeSet.covers (exposedSet.ranges ++ escapedRanges)
        (controlRanges ++ formatRanges) = true := by
      decide
    obtain ⟨t, ht, hct⟩ := CodeSet.exists_of_covers hcovers (isUnseen_iff.1 hunseen)
    rcases List.mem_append.1 ht with ht | ht
    · exact (CodeSet.mem_iff (by decide)).2 ⟨t, ht, hct⟩
    · rw [isInvisible_iff.2 ⟨t, ht, hct⟩] at hseen
      cases hseen

/-- A character is written as itself, or with characters that are seen if it is invisible or can be
seen itself. -/
theorem encodeChar_cases (c : Char) :
    (encodeChar c = [c] ∧ isInvisible c = false) ∨
      ((encodeChar c).all isGraphic = true ∧ (isInvisible c = true ∨ isGraphic c = true)) := by
  fun_cases encodeChar c with
  | case10 _ _ _ _ _ _ _ _ _ h =>
    refine .inr ⟨by simp [isGraphic_hexDigits, isGraphic], .inl ?_⟩
    simp only [Bool.or_eq_true, decide_eq_true_eq] at h
    rw [isInvisible_iff]
    rcases h with h | h
    · exact ⟨(0, 0x1f), by decide, Nat.zero_le _, Nat.le_of_lt_succ h⟩
    · exact ⟨(0x7f, 0x9f), by decide, by omega, by omega⟩
  | case11 _ _ _ _ _ _ _ _ _ _ h | case12 _ _ _ _ _ _ _ _ _ _ h =>
    exact .inr ⟨by simp [isGraphic_hexDigits, isGraphic], .inl h⟩
  | case13 _ _ _ _ _ _ _ _ _ _ h => exact .inl ⟨rfl, Bool.eq_false_iff.2 h⟩
  | _ =>
    subst_vars
    exact .inr (by decide)

/-- **An unseen character is written for itself only, if it is not invisible.** -/
theorem mem_encodeChar_iff (hd : isUnseen d = true) :
    d ∈ encodeChar c ↔ d = c ∧ isInvisible c = false := by
  have hgraphic := isGraphic_of_isUnseen hd
  rcases encodeChar_cases c with ⟨hself, hseen⟩ | ⟨hall, hescaped⟩
  · rw [hself, List.mem_singleton, and_iff_left hseen]
  · constructor
    · intro h
      rw [List.all_eq_true.1 hall d h] at hgraphic
      cases hgraphic
    · rintro ⟨rfl, hseen⟩
      rw [hseen, hgraphic] at hescaped
      simp at hescaped

/-- **An unseen character stands in a literal if and only if it stands in the text and is
exposed.** -/
theorem mem_quote_iff {text : String} (hc : isUnseen c = true) :
    c ∈ (quote text).toList ↔ c ∈ text.toList ∧ exposedSet.mem c = true := by
  have hquote : c ≠ '"' := by
    rintro rfl
    exact absurd (isGraphic_of_isUnseen hc) (by decide)
  simp [quote, encode, hquote, mem_encodeChar_iff hc, exposed_iff, hc]

/-- **A literal shows all its characters if and only if the text has no exposed one.** -/
theorem quote_shows_iff {text : String} :
    (∀ c ∈ (quote text).toList, isUnseen c = false) ↔ ∀ c ∈ text.toList, exposedSet.mem c = false := by
  constructor
  · intro h c hc
    refine Bool.eq_false_iff.2 fun hexposed => ?_
    have hunseen := (exposed_iff.1 hexposed).1
    rw [h c ((mem_quote_iff hunseen).2 ⟨hc, hexposed⟩)] at hunseen
    cases hunseen
  · intro h c hc
    refine Bool.eq_false_iff.2 fun hunseen => ?_
    obtain ⟨hmem, hexposed⟩ := (mem_quote_iff hunseen).1 hc
    rw [h c hmem] at hexposed
    cases hexposed

theorem isInvisible_of_isControl (h : isControl c = true) : isInvisible c = true := by
  rw [isControl, categorySet_control] at h
  exact isInvisible_iff.2 (CodeSet.exists_of_covers (by decide) (CodeSet.exists_range h))

end Literal

/-! ## Corrections -/

open Text (isControl isFormat isUnseen)

/-- What is written for matches is part of the token, and the rest was in the text. -/
theorem Pattern.Regex.mem_replaceFrom {r : Pattern.Regex} {token : List Char} {c : Char}
    {pos skip : Nat} {before : Option Char} {last : Option Nat} {text : List Char}
    (h : c ∈ r.replaceFrom token pos before skip last text) : c ∈ token ∨ c ∈ text := by
  revert h
  fun_induction Pattern.Regex.replaceFrom r token pos before skip last text with
  | case1 => exact .inl
  | case2 => exact .inr
  | case3 pos before skip last d rest _ ih => exact fun h => (ih h).imp_right (List.mem_cons_of_mem _)
  | case4 _ _ _ _ _ _ _ _ ih | case6 _ _ _ _ _ _ _ _ _ ih =>
    rw [List.mem_cons, List.mem_cons]
    exact fun h => h.elim (fun h => .inr (.inl h)) fun h => (ih h).imp_right .inr
  | case5 _ _ _ _ _ _ _ _ _ _ ih =>
    rw [List.mem_append, List.mem_cons]
    exact fun h => h.elim .inl fun h => (ih h).imp_right .inr
  | case7 _ _ _ _ _ _ _ _ _ _ _ ih =>
    rw [List.mem_append, List.mem_cons, List.mem_cons]
    rintro (h | h | h)
    · exact .inl h
    · exact .inr (.inl h)
    · exact (ih h).imp_right .inr

theorem Sensitive.mem_redact {patterns : List Sensitive.Pattern} {c : Char} {text : List Char}
    (h : c ∈ redact patterns text) : c ∈ redacted.toList ∨ c ∈ text := by
  induction patterns generalizing text with
  | nil => exact .inr h
  | cons p patterns ih => exact (ih h).elim .inl Pattern.Regex.mem_replaceFrom

/-- **No rule adds an unseen character.** -/
theorem Rule.mem_of_corrects {rule : Rule} {text t fixed : String} {c : Char}
    (h : rule.check? text = some ⟨t, some fixed⟩) (hc : c ∈ fixed.toList)
    (hunseen : isUnseen c = true) : c ∈ text.toList := by
  have hgraphic := Text.isGraphic_of_isUnseen hunseen
  cases rule with
  | englishOnly => simp [check?] at h
  | lowercaseStart =>
    simp only [check?, Option.map_eq_some_iff, Finding.mk.injEq, Option.some.injEq] at h
    obtain ⟨out, hout, -, rfl⟩ := h
    obtain ⟨front, d, back, hd, htext, rfl, -⟩ := Lowercase.lowered?_eq_some hout
    -- one letter is new, and it is a small one
    have hlower : Text.isGraphic d.toLower = true :=
      Lowercase.of_isUpper (P := fun d => Text.isGraphic d.toLower) (by decide) hd
    rw [String.toList_ofList, List.mem_append, List.mem_cons] at hc
    rw [htext, List.mem_append, List.mem_cons]
    rcases hc with hc | rfl | hc
    · exact .inl hc
    · rw [hlower] at hgraphic
      cases hgraphic
    · exact .inr (.inr hc)
  | noSpecialChars =>
    simp only [check?, Option.ite_none_right_eq_some, Option.some.injEq, Finding.mk.injEq] at h
    obtain ⟨-, -, rfl⟩ := h
    -- only spaces are new
    have hspace : c ≠ ' ' := by
      rintro rfl
      exact absurd hgraphic (by decide)
    rw [String.toList_ofList] at hc
    exact (List.mem_filter.1 (Special.mem_of_mem_dropEllipses (Special.mem_of_mem_strip hspace hc))).1
  | noSensitiveData patterns =>
    simp only [check?, Option.ite_none_right_eq_some, Option.some.injEq, Finding.mk.injEq] at h
    obtain ⟨-, -, rfl⟩ := h
    rw [String.toList_ofList] at hc
    -- only the token is new
    refine (Sensitive.mem_redact hc).resolve_left fun htoken => ?_
    have htokens : Sensitive.redacted.toList.all Text.isGraphic = true := by decide
    rw [List.all_eq_true.1 htokens c htoken] at hgraphic
    cases hgraphic

/-! ## Replacements -/

namespace Engine

/-- **What a replacement shows.** All characters of a literal are seen if and only if its text has no
exposed one. No control character is ever written as it is, and a format character is if and only if
it is in the text and exposed. The unseen characters that a replacement writes are exposed ones of the
message that it replaces. -/
theorem replacement_shows (text : String) (engine : Engine Rule) (unit : SourceUnit) (types : Resolver) :
    ((∀ c ∈ (Literal.quote text).toList, isControl c = false ∧ isFormat c = false) ↔
      ∀ c ∈ text.toList, Literal.exposedSet.mem c = false) ∧
    (∀ c, isControl c = true → c ∉ (Literal.quote text).toList) ∧
    (∀ c, isFormat c = true →
      (c ∈ (Literal.quote text).toList ↔ c ∈ text.toList ∧ Literal.exposedSet.mem c = true)) ∧
    ∀ v ∈ engine.check unit types, ∀ r, v.replacement? = some r →
      ∃ call ∈ unit.calls, ∃ argument, LoggingApi.resolve? types call = some argument ∧
        ∃ id span raw message, argument.expr.stripParens = .literal id span raw ∧
          Literal.value? raw = some message ∧
          ∀ c ∈ r.newText.toList, isUnseen c = true →
            c ∈ message.toList ∧ Literal.exposedSet.mem c = true := by
  refine ⟨?_, fun c hc hmem => ?_, fun c hc => ?_, fun v hv r hr => ?_⟩
  · rw [← Literal.quote_shows_iff]
    simp only [isUnseen, Bool.or_eq_false_iff]
  · have hunseen : isUnseen c = true := by rw [isUnseen, hc, Bool.true_or]
    have hexposed := ((Literal.mem_quote_iff hunseen).1 hmem).2
    have hseen := (Literal.exposed_iff.1 hexposed).2
    rw [Literal.isInvisible_of_isControl hc] at hseen
    cases hseen
  · exact Literal.mem_quote_iff (by rw [isUnseen, hc, Bool.or_true])
  · obtain ⟨call, hcall, argument, hargument, hv⟩ := mem_check.1 hv
    obtain ⟨configured, -, id, span, raw, message, fixed, hstrip, hraw, -, hcheck, -, -, -, rfl⟩ :=
      corrects_of_checkMessage hv hr
    refine ⟨call, hcall, argument, hargument, id, span, raw, message, hstrip, hraw, ?_⟩
    intro c hc hunseen
    obtain ⟨hfixed, hexposed⟩ := (Literal.mem_quote_iff hunseen).1 hc
    exact ⟨Rule.mem_of_corrects hcheck hfixed hunseen, hexposed⟩

/-- A unit that logs one literal. -/
def loggedUnit (raw : String) : SourceUnit :=
  ⟨"main.go", [.call 0 {} (.select 1 {} (.ident 2 {} "slog") ⟨3, "Info", {}⟩) [.literal 4 {} raw]]⟩

/-- The types of such a unit. -/
def loggedTypes : Resolver where
  useOf id := if id = 3 then some (.function (.function "log/slog" "Info")) else none
  selection _ := none
  typeOf id := if id = 4 then some .string else none

/-- A joiner is kept as an escape. -/
theorem replacement_shows_joiner :
    ∃ v ∈ check ⟨[⟨Rule.lowercaseStart, .warning⟩]⟩ (loggedUnit "\"Zero\\u200dwidth\"") loggedTypes,
      ∃ r, v.replacement? = some r ∧ r.newText = Literal.quote "zero\u200dwidth" ∧
        (∀ c ∈ r.newText.toList, isUnseen c = false) ∧ isFormat '\u200d' = true ∧
        '\u200d' ∉ (Literal.quote "zero\u200dwidth").toList := by
  let engine : Engine Rule := ⟨[⟨.lowercaseStart, .warning⟩]⟩
  let r : Replacement := ⟨⟨"main.go", 0, 0, 0, 0⟩, "\"zero\\u200dwidth\""⟩
  have hcheck : (engine.check (loggedUnit "\"Zero\\u200dwidth\"") loggedTypes).map
      Violation.replacement? = [some r] := by
    decide +kernel
  obtain ⟨v, hv, hr⟩ := List.mem_map.1 (hcheck ▸ List.mem_singleton_self (some r))
  obtain ⟨-, -, hquote, hreplaced⟩ :=
    replacement_shows "zero\u200dwidth" engine (loggedUnit "\"Zero\\u200dwidth\"") loggedTypes
  have hformat : isFormat '\u200d' = true := by
    rw [isFormat, Text.categorySet_format]
    decide
  refine ⟨v, hv, r, hr, by decide, fun c hc => Bool.eq_false_iff.2 fun hunseen => ?_, hformat, ?_⟩
  · obtain ⟨call, hcall, argument, hargument, id, span, raw, message, hstrip, hraw, hshows⟩ :=
      hreplaced v hv r hr
    obtain rfl := List.mem_singleton.1 hcall
    obtain rfl := Option.some.inj hargument
    obtain ⟨-, -, rfl⟩ := Expr.literal.inj hstrip
    have hmessage : Literal.value? "\"Zero\\u200dwidth\"" = some "Zero\u200dwidth" := by decide +kernel
    obtain rfl := Option.some.inj (hmessage.symm.trans hraw)
    -- the message has no exposed character
    have hnone : "Zero\u200dwidth".toList.all (!Literal.exposedSet.mem ·) = true := by decide
    obtain ⟨hmem, hexposed⟩ := hshows c hc hunseen
    have hnot := List.all_eq_true.1 hnone c hmem
    rw [hexposed] at hnot
    cases hnot
  · rw [hquote _ hformat]
    decide

/-- An isolate that a message writes with an escape is written as it is. -/
theorem replacement_isolate :
    ¬(∀ (text : String) (c : Char), c ∈ (Literal.quote text).toList →
      isControl c = false ∧ isFormat c = false) ∧
    ∃ v ∈ check ⟨[⟨Rule.lowercaseStart, .warning⟩]⟩ (loggedUnit "\"Hello \\u2066\"") loggedTypes,
      ∃ r, v.replacement? = some r ∧ '\u2066' ∈ r.newText.toList ∧ isFormat '\u2066' = true := by
  have hformat : isFormat '\u2066' = true := by
    rw [isFormat, Text.categorySet_format]
    decide
  refine ⟨fun h => ?_, ?_⟩
  · have hseen := (h "\u2066" '\u2066' (by decide)).2
    rw [hformat] at hseen
    cases hseen
  · let r : Replacement := ⟨⟨"main.go", 0, 0, 0, 0⟩, "\"hello \u2066\""⟩
    have hcheck : (check ⟨[⟨Rule.lowercaseStart, .warning⟩]⟩ (loggedUnit "\"Hello \\u2066\"")
        loggedTypes).map Violation.replacement? = [some r] := by
      decide +kernel
    obtain ⟨v, hv, hr⟩ := List.mem_map.1 (hcheck ▸ List.mem_singleton_self (some r))
    exact ⟨v, hv, r, hr, by decide, hformat⟩

end Engine

end LogStyle
