import LogStyle.Proofs.Decorations
import LogStyle.Pattern.Parser
import LogStyle.Proofs.Keyword
import LogStyle.Rule.Sensitive

/-!
# Redaction of the built-in words

* `compile_builtins`: the built-in patterns are keywords.
* `Redacts`: a text and what becomes of it, character by character and word by word
  (`replaceAll_redacts`).
* `Redacts.standsAlone`: **redaction creates no words.** A word that stands alone after the
  redaction of a keyword stood alone before, at a place where the keyword did not match.
* `not_occurs_redact`: nothing is left to redact.
-/

namespace LogStyle

/-- A set of single code points holds only characters that are listed. -/
theorem CodeSet.of_mem {s : CodeSet} {P : Char → Bool}
    (h : (s.ranges.all fun r => r.1 == r.2 && P (Char.ofNat r.1)) = true) {c : Char}
    (hc : s.mem c = true) : P c = true := by
  have key : ∀ rs : List (Nat × Nat), (rs.all fun r => r.1 == r.2 && P (Char.ofNat r.1)) = true →
      within rs c.toNat = true → P c = true := by
    intro rs
    induction rs with
    | nil => intro _ hc; cases hc
    | cons r rs ih =>
      intro h hc
      simp only [List.all_cons, Bool.and_eq_true, beq_iff_eq] at h
      obtain ⟨⟨hr, hP⟩, hrest⟩ := h
      unfold within at hc
      split at hc
      · cases hc
      split at hc
      · have hcr : r.1 = c.toNat := by omega
        rwa [hcr, Char.ofNat_toNat] at hP
      · exact ih hrest hc
  exact key s.ranges h hc

namespace Sensitive

open LogStyle.Pattern (Piece Spells StandsAlone IsWord keyword isIn)

/-! ## The built-in keywords -/

/-- The pieces of a word, each letter in any case. -/
def letters (word : String) : List Piece :=
  word.toList.map fun c => .letter (Pattern.Flags.initial.literal c)

/-- A hyphen, an underscore or nothing. -/
def separator : Piece := .optional ⟨[(0x2d, 0x2d), (0x5f, 0x5f)]⟩

/-- The pieces of the patterns that are always on. -/
def keywords : List (List Piece) := [
  letters "password", letters "passwd", letters "token",
  letters "api" ++ separator :: letters "key", letters "secret", letters "authorization",
  letters "access" ++ separator :: letters "key"]

/-- The patterns that are always on. -/
def builtinPatterns : List Pattern :=
  (builtins.zip keywords).map fun (source, pieces) => ⟨source, keyword pieces⟩

/-- **The built-in patterns are keywords.** -/
theorem compile_builtins : compileWithBuiltins Pattern.ofText? [] = .ok builtinPatterns := by
  have h : (compileWithBuiltins Pattern.ofText? []).toOption = some builtinPatterns := by decide +kernel
  cases hc : compileWithBuiltins Pattern.ofText? [] with
  | error e => rw [hc] at h; cases h
  | ok patterns =>
    rw [hc] at h
    exact congrArg Except.ok (Option.some.inj h)

/-- Whether all characters of a piece have a property; they are listed one by one. -/
def allOf (P : Char → Bool) (p : Piece) : Bool :=
  p.set.ranges.all fun r => r.1 == r.2 && P (Char.ofNat r.1)

theorem spells_allOf {P : Char → Bool} {ps : List Piece} (hps : ps.all (allOf P) = true)
    {w : List Char} (hw : Spells ps w) : ∀ c ∈ w, P c = true := by
  induction hw with
  | nil => simp
  | letter hx _ ih | taken hx _ ih =>
    simp only [List.all_cons, Bool.and_eq_true] at hps
    intro c hc
    rcases List.mem_cons.1 hc with rfl | hc
    · exact CodeSet.of_mem hps.1 hx
    · exact ih hps.2 c hc
  | omitted _ ih =>
    simp only [List.all_cons, Bool.and_eq_true] at hps
    exact ih hps.2

/-- A letter that has a property in all its forms. -/
def isLetterOf (P : Char → Bool) : Piece → Bool
  | .letter set => allOf P (.letter set)
  | .optional _ => false

theorem spells_head {P : Char → Bool} {ps : List Piece}
    (hps : ps.head?.any (isLetterOf P) = true) {w : List Char} (hw : Spells ps w) :
    w.head?.any P = true := by
  cases hw with
  | nil => cases hps
  | letter hx _ => exact CodeSet.of_mem hps hx
  | taken | omitted => cases hps

theorem spells_getLast {P : Char → Bool} {ps : List Piece}
    (hps : ps.getLast?.any (isLetterOf P) = true) {w : List Char} (hw : Spells ps w) :
    w.getLast?.any P = true := by
  induction hw with
  | nil => cases hps
  | @letter set x ps w hx hw ih =>
    cases ps with
    | nil => cases hw; exact CodeSet.of_mem hps hx
    | cons p ps =>
      have hlast := ih (by simpa [List.getLast?_cons] using hps)
      cases w with
      | nil => cases hlast
      | cons y w => simpa [List.getLast?_cons] using hlast
  | @taken set x ps w hx hw ih =>
    cases ps with
    | nil => cases hps
    | cons p ps =>
      have hlast := ih (by simpa [List.getLast?_cons] using hps)
      cases w with
      | nil => cases hlast
      | cons y w => simpa [List.getLast?_cons] using hlast
  | @omitted set ps w hw ih =>
    cases ps with
    | nil => cases hps
    | cons p ps => exact ih (by simpa [List.getLast?_cons] using hps)

/-- A character of a keyword is plain and no bracket. -/
def isKeywordChar (c : Char) : Bool := c ≠ '[' && Special.isPlain c

/-- A keyword starts with a word character, but not like the word that takes its place. -/
def isKeywordStart (c : Char) : Bool := Text.isWordChar c && c ≠ 'r'

section

variable {ps : List Piece} (hps : ps ∈ keywords) {w : List Char}

include hps

theorem isWord_of_mem : IsWord ps := by
  have h : (keywords.all fun ps => ps.head?.any (isLetterOf Text.isWordChar) &&
      ps.getLast?.any (isLetterOf Text.isWordChar)) = true := by decide +kernel
  have h := List.all_eq_true.1 h ps hps
  rw [Bool.and_eq_true] at h
  exact ⟨spells_head h.1, spells_getLast h.2⟩

theorem isKeywordChar_of_spells (hw : Spells ps w) : ∀ c ∈ w, isKeywordChar c = true := by
  have h : (keywords.all fun ps => ps.all (allOf isKeywordChar)) = true := by decide +kernel
  exact spells_allOf (List.all_eq_true.1 h ps hps) hw

theorem isKeywordStart_of_spells (hw : Spells ps w) : w.head?.any isKeywordStart = true := by
  have h : (keywords.all fun ps => ps.head?.any (isLetterOf isKeywordStart)) = true := by
    decide +kernel
  exact spells_head (List.all_eq_true.1 h ps hps) hw

end

/-! ## Texts and their redactions -/

/-- What becomes of a text when the words of a keyword are redacted, given the character before the
text: a character stays where no word stands alone, and a word that stands alone is cut. -/
inductive Redacts (ps : List Piece) : Option Char → List Char → List Char → Prop where
  | nil {before} : Redacts ps before [] []
  | keep {before c rest out} : (∀ w back, c :: rest = w ++ back → ¬StandsAlone ps before w back) →
      Redacts ps (some c) rest out → Redacts ps before (c :: rest) (c :: out)
  | cut {before w rest out} : StandsAlone ps before w rest →
      Redacts ps (w.getLast?.or before) rest out →
      Redacts ps before (w ++ rest) (redacted.toList ++ out)

/-- The characters of a match are skipped. -/
theorem replaceFrom_skip (r : Pattern.Regex) (token w rest : List Char) (pos : Nat)
    (before : Option Char) (last : Option Nat) :
    r.replaceFrom token pos before w.length last (w ++ rest) =
      r.replaceFrom token (pos + w.length) (w.getLast?.or before) 0 last rest := by
  induction w generalizing pos before with
  | nil => simp
  | cons c w ih =>
    rw [List.cons_append, Pattern.Regex.replaceFrom, if_pos (by simp)]
    simp only [List.length_cons, Nat.add_sub_cancel]
    rw [ih, Nat.add_assoc, Nat.add_comm 1]
    cases w <;> simp [List.getLast?_cons]

theorem replaceFrom_redacts {ps : List Piece} (hps : IsWord ps) (pos : Nat) (before : Option Char)
    (last : Option Nat) (text : List Char) :
    Redacts ps before text
      ((keyword ps).replaceFrom redacted.toList pos before 0 last text) := by
  induction hn : text.length using Nat.strongRecOn generalizing pos before last text with
  | ind n ih =>
    subst hn
    cases text with
    | nil =>
      -- no word is empty, so there is no match at the end
      have hnone : ((keyword ps).matchAt? ⟨pos, before, []⟩).isSome = false := by
        rw [Bool.eq_false_iff, Ne, Pattern.matchAt?_keyword_isSome hps]
        rintro ⟨w, rest, hcs, hs⟩
        exact hps.ne_nil hs.spells (List.append_eq_nil_iff.1 hcs.symm).1
      rw [Pattern.Regex.replaceFrom, hnone]
      exact .nil
    | cons c rest =>
      rw [Pattern.Regex.replaceFrom, if_neg (by simp)]
      cases hm : (keyword ps).matchAt? ⟨pos, before, c :: rest⟩ with
      | none =>
        refine .keep (fun w back hcs hs => ?_) (ih _ (by simp) _ _ _ _ rfl)
        have hsome := (Pattern.matchAt?_keyword_isSome hps pos).2 ⟨w, back, hcs, hs⟩
        rw [hm] at hsome
        cases hsome
      | some stop =>
        obtain ⟨w, hs, hf⟩ := (Pattern.mem_ends_keyword_iff hps).1 (List.mem_of_mem_head? hm)
        obtain ⟨hrest, hpos, -⟩ := hf
        cases w with
        | nil => exact absurd rfl (hps.ne_nil hs.spells)
        | cons d w =>
          simp only [List.cons_append, List.cons.injEq, List.length_cons] at hrest hpos
          obtain ⟨rfl, rfl⟩ := hrest
          have hskip : stop.pos - pos - 1 = w.length := by omega
          simp only [if_pos (show pos < stop.pos by omega), hskip, replaceFrom_skip]
          have hbefore : w.getLast?.or (some c) = (c :: w).getLast?.or before := by
            cases w <;> simp [List.getLast?_cons]
          rw [hbefore]
          exact .cut hs (ih _ (by simp only [List.length_cons, List.length_append]; omega) _ _ _ _ rfl)

theorem replaceAll_redacts {ps : List Piece} (hps : IsWord ps) (text : List Char) :
    Redacts ps none text ((keyword ps).replaceAll redacted.toList text) :=
  replaceFrom_redacts hps 0 none none text

namespace Redacts

variable {ps qs : List Piece} {before : Option Char} {text out : List Char}

/-- Up to the first token, the redaction is the text. -/
theorem of_append {u b : List Char} (h : Redacts ps before text (u ++ b)) (hu : '[' ∉ u) :
    ∃ a, text = u ++ a ∧ Redacts ps (u.getLast?.or before) a b := by
  induction u generalizing before text with
  | nil => exact ⟨text, rfl, h⟩
  | cons c u ih =>
    generalize hout : c :: u ++ b = out at h
    cases h with
    | nil => cases hout
    | @keep _ d rest out hno h =>
      obtain ⟨rfl, rfl⟩ := List.cons.inj hout
      obtain ⟨a, rfl, ha⟩ := ih h (fun hm => hu (List.mem_cons_of_mem _ hm))
      refine ⟨a, rfl, ?_⟩
      cases u <;> simpa [List.getLast?_cons] using ha
    | cut =>
      obtain ⟨rfl, -⟩ := List.cons.inj hout
      exact absurd List.mem_cons_self hu

/-- No word is cut right after a word character. -/
theorem head?_eq (h : Redacts ps before text out) (hb : isIn Text.wordSet before = true) :
    text.head? = out.head? := by
  cases h with
  | nil | keep => rfl
  | cut hs => rw [hs.before] at hb; cases hb

/-- Within a token, a word may start only at its first two characters. -/
theorem start_of_token {front tail : List Char} (h : redacted.toList = front ++ tail)
    (ht : tail ≠ []) :
    tail.head? = some '[' ∨ tail.head? = some 'r' ∨ isIn Text.wordSet front.getLast? = true := by
  have key : ∀ k < redacted.toList.length, (redacted.toList.drop k).head? = some '[' ∨
      (redacted.toList.drop k).head? = some 'r' ∨
      isIn Text.wordSet (redacted.toList.take k).getLast? = true := by decide +kernel
  have hk : front.length < redacted.toList.length := by
    have := List.length_pos_iff.2 ht
    rw [h, List.length_append]; omega
  have := key front.length hk
  rwa [h, List.drop_left, List.take_left] at this

/-- **Redaction creates no words.** A word that stands alone after the redaction of a keyword stood
alone before, at a place where the keyword did not match. -/
theorem standsAlone (hps : IsWord ps) (hqs : qs ∈ keywords) (h : Redacts ps before text out)
    {front w back : List Char} (hout : out = front ++ (w ++ back))
    (hw : StandsAlone qs (front.getLast?.or before) w back) :
    ∃ front' back', text = front' ++ (w ++ back') ∧
      StandsAlone qs (front'.getLast?.or before) w back' ∧
      ∀ v rest, w ++ back' = v ++ rest → ¬StandsAlone ps (front'.getLast?.or before) v rest := by
  have hword := isWord_of_mem hqs
  have hchars := isKeywordChar_of_spells hqs hw.spells
  have hstart := isKeywordStart_of_spells hqs hw.spells
  obtain ⟨x, w', rfl⟩ := List.exists_cons_of_ne_nil (hword.ne_nil hw.spells)
  have hbracket : '[' ∉ x :: w' := fun hm => absurd (hchars _ hm) (by decide)
  induction h generalizing front with
  | nil => simp at hout
  | @keep before c rest out hno h ih =>
    cases front with
    | nil =>
      obtain ⟨rfl, rfl⟩ := List.cons.inj hout
      obtain ⟨a, rfl, ha⟩ := h.of_append fun hm => hbracket (List.mem_cons_of_mem _ hm)
      have hlast : w'.getLast?.or (some c) = (c :: w').getLast? := by
        cases w' <;> simp [List.getLast?_cons]
      rw [hlast] at ha
      -- what follows the word is what followed it before, as the word ends in a word character
      have hafter := hw.after
      rw [← ha.head?_eq (hword.stops hw.spells)] at hafter
      exact ⟨[], a, rfl, ⟨hw.spells, hw.before, hafter⟩, hno⟩
    | cons d front =>
      obtain ⟨rfl, rfl⟩ := List.cons.inj hout
      have hlast : ∀ u : List Char, (c :: u).getLast?.or before = u.getLast?.or (some c) := by
        intro u; cases u <;> simp [List.getLast?_cons]
      rw [hlast] at hw
      obtain ⟨front', back', rfl, hs, hno⟩ := ih rfl hw
      exact ⟨c :: front', back', rfl, by rwa [hlast], by simpa only [hlast] using hno⟩
  | @cut before v rest out hv h ih =>
    -- no word starts right behind the token: a word character would have followed the word cut
    have hbehind : out ≠ x :: w' ++ back := by
      rintro rfl
      have hhead := h.head?_eq (hps.isIn_getLast hv.spells before)
      have hx := hword.starts hw.spells
      have hafter := hv.after
      rw [hhead] at hafter
      exact absurd hx (by simpa using hafter)
    rcases List.append_eq_append_iff.1 hout with ⟨mid, rfl, rfl⟩ | ⟨tail, htoken, htail⟩
    · obtain ⟨m, hm⟩ := Option.isSome_iff_exists.1
        (List.getLast?_isSome.2 fun hmid : mid = [] => hbehind (by rw [hmid]; rfl))
      rw [List.getLast?_append, hm, Option.some_or] at hw
      obtain ⟨front', back', rfl, hs, hno⟩ := ih rfl (by rwa [hm, Option.some_or])
      refine ⟨v ++ front', back', by rw [List.append_assoc], ?_⟩
      rw [List.getLast?_append, Option.or_assoc]
      exact ⟨hs, hno⟩
    · have hne : tail ≠ [] := by
        rintro rfl
        exact hbehind htail.symm
      obtain ⟨y, tail, rfl⟩ := List.exists_cons_of_ne_nil hne
      obtain ⟨rfl, -⟩ := List.cons.inj htail
      rcases start_of_token htoken hne with hx | hx | hfront
      · exact absurd (Option.some.inj hx ▸ List.mem_cons_self) hbracket
      · rw [List.head?_cons, Option.any_some, Option.some.inj hx] at hstart
        exact absurd hstart (by decide)
      · obtain ⟨m, hm⟩ : ∃ m, front.getLast? = some m := by
          cases hl : front.getLast? with
          | none => rw [hl] at hfront; cases hfront
          | some m => exact ⟨m, rfl⟩
        have hbefore := hw.before
        rw [hm] at hfront
        rw [hm, Option.some_or, hfront] at hbefore
        cases hbefore

end Redacts

/-! ## The built-in patterns -/

theorem exists_keyword {p : Pattern} (hp : p ∈ builtinPatterns) :
    ∃ ps ∈ keywords, p.regex = keyword ps := by
  obtain ⟨⟨source, ps⟩, hmem, rfl⟩ := List.mem_map.1 hp
  exact ⟨ps, (List.of_mem_zip hmem).2, rfl⟩

theorem redacts_of_mem {p : Pattern} (hp : p ∈ builtinPatterns) (text : List Char) :
    ∃ ps ∈ keywords, Redacts ps none text (p.redact text) := by
  obtain ⟨ps, hps, hreg⟩ := exists_keyword hp
  refine ⟨ps, hps, ?_⟩
  rw [Pattern.redact, hreg]
  exact replaceAll_redacts (isWord_of_mem hps) text

/-- What the redaction of one keyword preserves, the redaction of all preserves. -/
theorem redact_preserves {P : List Char → Prop} (hP : ∀ ps ∈ keywords, ∀ text out,
    Redacts ps none text out → P text → P out) {text : List Char} (h : P text) :
    P (redact builtinPatterns text) := by
  have key : ∀ l : List Pattern, l ⊆ builtinPatterns → ∀ t, P t → P (redact l t) := by
    intro l
    induction l with
    | nil => exact fun _ _ ht => ht
    | cons p l ih =>
      intro hl t ht
      obtain ⟨ps, hps, hr⟩ := redacts_of_mem (hl List.mem_cons_self) t
      exact ih (List.subset_of_cons_subset hl) _ (hP ps hps _ _ hr ht)
  exact key _ (List.Subset.refl _) _ h

/-- After the redaction of a pattern, only other patterns match, and they matched before. -/
theorem isMatch_of_redact {p q : Pattern} (hp : p ∈ builtinPatterns) (hq : q ∈ builtinPatterns)
    {text : List Char} (h : q.isMatch (p.redact text) = true) : q.isMatch text = true ∧ q ≠ p := by
  obtain ⟨qs, hqs, hqreg⟩ := exists_keyword hq
  obtain ⟨ps, hps, hpreg⟩ := exists_keyword hp
  have hr := replaceAll_redacts (isWord_of_mem hps) text
  rw [Pattern.redact, hpreg, Pattern.isMatch, hqreg,
    Pattern.isMatch_keyword (isWord_of_mem hqs)] at h
  obtain ⟨front, w, back, hout, hw⟩ := h
  obtain ⟨front', back', htext, hw', hno⟩ :=
    hr.standsAlone (isWord_of_mem hps) hqs hout (by rwa [Option.or_none])
  rw [Option.or_none] at hw' hno
  refine ⟨?_, ?_⟩
  · rw [Pattern.isMatch, hqreg, Pattern.isMatch_keyword (isWord_of_mem hqs)]
    exact ⟨front', w, back', htext, hw'⟩
  · rintro rfl
    have hm := (Pattern.matchAt?_keyword_isSome (isWord_of_mem hqs) 0).2 ⟨w, back', rfl, hw'⟩
    rw [← hqreg, hpreg, Pattern.matchAt?_keyword_isSome (isWord_of_mem hps)] at hm
    obtain ⟨v, rest, hv, hs⟩ := hm
    exact hno v rest hv hs

/-- **Nothing is left to redact.** -/
theorem not_occurs_redact (text : List Char) :
    occurs builtinPatterns (redact builtinPatterns text) = false := by
  have key : ∀ l : List Pattern, l ⊆ builtinPatterns → ∀ q ∈ builtinPatterns, ∀ t,
      q.isMatch (redact l t) = true → q.isMatch t = true ∧ q ∉ l := by
    intro l
    induction l with
    | nil => exact fun _ q _ t h => ⟨h, List.not_mem_nil⟩
    | cons p l ih =>
      intro hl q hq t h
      obtain ⟨hm, hql⟩ := ih (List.subset_of_cons_subset hl) q hq _ h
      obtain ⟨hm, hqp⟩ := isMatch_of_redact (hl List.mem_cons_self) hq hm
      exact ⟨hm, fun hmem => (List.mem_cons.1 hmem).elim hqp hql⟩
  rw [occurs, Bool.eq_false_iff]
  intro h
  obtain ⟨q, hq, hm⟩ := List.any_eq_true.1 h
  exact (key _ (List.Subset.refl _) q hq text hm).2 hq

theorem exists_isPlain {text : List Char} (h : occurs builtinPatterns text = true) :
    ∃ c ∈ text, Special.isPlain c = true := by
  obtain ⟨p, hp, hm⟩ := List.any_eq_true.1 h
  obtain ⟨ps, hps, hreg⟩ := exists_keyword hp
  rw [Pattern.isMatch, hreg, Pattern.isMatch_keyword (isWord_of_mem hps)] at hm
  obtain ⟨front, w, back, rfl, hw⟩ := hm
  obtain ⟨c, hc⟩ := List.exists_mem_of_ne_nil w ((isWord_of_mem hps).ne_nil hw.spells)
  have hchar := isKeywordChar_of_spells hps hw.spells c hc
  rw [isKeywordChar, Bool.and_eq_true] at hchar
  exact ⟨c, by simp [hc], hchar.2⟩

end Sensitive

end LogStyle
