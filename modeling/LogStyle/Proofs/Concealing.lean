import LogStyle.Proofs.Redaction
import Mathlib.Data.List.Chain

/-!
# What redaction conceals

A text in which no pattern occurs stays as it is, so that the redaction of the built-in words is
settled after one run. It is also made piece by piece: between characters that belong to no word,
a built-in word becomes the token and what stands around it is redacted for itself.

* `Regex.replaceFrom_of_not_matches`: without a match, a text stays as it is.
* `redaction_settles`: **nothing is left to redact, and only texts with something to redact
  change.**
* `spellings`: the built-in words in small letters (`mem_spellings`). None of them is a part of
  another one (`eq_of_part`).
* `Redacts.append`: **redaction of a whole is redaction of its parts** where no word lies across
  the seam.
* `Block`: a built-in word, or the token in its place. No word lies across the ends of a block
  (`seam_block`, `block_seam`).
* `redaction_conceals`: **a built-in word that stands for itself becomes the token, whatever word it
  was and whatever stands around it.**
-/

namespace LogStyle

namespace Pattern

/-- **Without a match, a text stays as it is.** -/
theorem Regex.replaceFrom_of_not_matches {r : Regex} {pos : Nat} {before : Option Char}
    {text : List Char} (h : r.matchesFrom pos before text = false) (token : List Char)
    (last : Option Nat) : r.replaceFrom token pos before 0 last text = text := by
  induction text generalizing pos before with
  | nil =>
    rw [Regex.matchesFrom] at h
    rw [Regex.replaceFrom, h]
    rfl
  | cons c rest ih =>
    rw [Regex.matchesFrom, Bool.or_eq_false_iff, Option.isSome_eq_false_iff,
      Option.isNone_iff_eq_none] at h
    rw [Regex.replaceFrom, if_neg (Nat.lt_irrefl 0), h.1]
    exact congrArg (c :: ·) (ih h.2)

/-- A keyword matches the whole of a text if it spells it. -/
theorem matchesWhole_keyword {ps : List Piece} (hps : IsWord ps) {text : List Char} :
    (keyword ps).matchesWhole text = true ↔ Spells ps text := by
  rw [Regex.matchesWhole, List.any_eq_true]
  constructor
  · rintro ⟨d, hd, hrest⟩
    obtain ⟨w, hw, hf⟩ := (mem_ends_keyword_iff hps).1 hd
    have htext : text = w ++ d.rest := hf.1
    rw [List.isEmpty_iff.1 hrest, List.append_nil] at htext
    exact htext ▸ hw.spells
  · intro hw
    let d : Cursor := ⟨text.length, text.getLast?.or none, []⟩
    refine ⟨d, (mem_ends_keyword_iff hps).2 ⟨text, ⟨hw, rfl, rfl⟩, ?_, ?_, rfl⟩, rfl⟩
    · exact (List.append_nil text).symm
    · exact (Nat.zero_add _).symm

end Pattern

namespace Sensitive

open LogStyle.Pattern (Piece Spells StandsAlone IsWord keyword isIn)

/-! ## Texts without sensitive words -/

theorem Pattern.redact_of_not_isMatch {p : Pattern} {text : List Char} (h : p.isMatch text = false) :
    p.redact text = text :=
  Pattern.Regex.replaceFrom_of_not_matches h _ _

theorem redact_of_not_occurs {patterns : List Pattern} {text : List Char}
    (h : occurs patterns text = false) : redact patterns text = text := by
  induction patterns with
  | nil => rfl
  | cons p patterns ih =>
    rw [occurs, List.any_cons, Bool.or_eq_false_iff] at h
    rw [redact, List.foldl_cons, Pattern.redact_of_not_isMatch h.1]
    exact ih h.2

/-- **Nothing is left to redact.** With the built-in patterns, a redacted text has no sensitive
word, a second redaction changes nothing, and a text changes only if it has such a word. -/
theorem redaction_settles : compileWithBuiltins Pattern.ofText? [] = .ok builtinPatterns ∧
    ∀ text, occurs builtinPatterns (redact builtinPatterns text) = false ∧
      redact builtinPatterns (redact builtinPatterns text) = redact builtinPatterns text ∧
      (redact builtinPatterns text = text ↔ occurs builtinPatterns text = false) := by
  refine ⟨compile_builtins, fun text => ?_⟩
  have hclean := not_occurs_redact text
  refine ⟨hclean, redact_of_not_occurs hclean, ?_, redact_of_not_occurs⟩
  intro hsame
  rw [← hsame]
  exact hclean

/-- A text with two sensitive words, one of which is made of another and a hyphen. -/
theorem redaction_settles_twoWords :
    redact builtinPatterns "Bad API-key, no token".toList =
      "Bad [redacted], no [redacted]".toList ∧
    occurs builtinPatterns "Bad API-key, no token".toList = true ∧
    occurs builtinPatterns "Bad [redacted], no [redacted]".toList = false ∧
    redact builtinPatterns "Bad [redacted], no [redacted]".toList =
      "Bad [redacted], no [redacted]".toList := by
  have hredact : redact builtinPatterns "Bad API-key, no token".toList =
      "Bad [redacted], no [redacted]".toList := by decide +kernel
  obtain ⟨-, h⟩ := redaction_settles
  obtain ⟨hclean, hagain, hsame⟩ := h "Bad API-key, no token".toList
  rw [hredact] at hclean hagain hsame
  refine ⟨hredact, ?_, hclean, hagain⟩
  rw [← Bool.not_eq_false, ← hsame]
  decide

/-! ## The built-in words in small letters -/

/-- The small letter of which a letter is a form, where the long s and the Kelvin sign are forms of
`s` and `k`. -/
def small (c : Char) : Char :=
  if c = '\u017f' then 's' else if c = '\u212a' then 'k' else c.toLower

/-- The small letters of a piece; its characters are listed one by one. -/
def smallOf (p : Piece) : List Char :=
  (p.set.ranges.map fun r => small (Char.ofNat r.1)).eraseDups

/-- The words that some pieces spell, in small letters. -/
def smallWords : List Piece → List (List Char)
  | [] => [[]]
  | p :: ps =>
    let rest := smallWords ps
    let taken := (smallOf p).flatMap fun c => rest.map (c :: ·)
    match p with
    | .letter _ => taken
    | .optional _ => taken ++ rest

/-- The built-in words in small letters. -/
def spellings : List (List Char) := [
  "password", "passwd", "token", "api-key", "api_key", "apikey", "secret", "authorization",
  "access-key", "access_key", "accesskey"].map String.toList

theorem of_allOf {P : Char → Bool} {p : Piece} (h : allOf P p = true) {c : Char}
    (hc : p.set.mem c = true) : P c = true :=
  CodeSet.of_mem h hc

theorem mem_smallWords {ps : List Piece}
    (hps : (ps.all fun p => allOf (fun c => (smallOf p).contains (small c)) p) = true)
    {w : List Char} (hw : Spells ps w) : w.map small ∈ smallWords ps := by
  have htake : ∀ {c : Char} {w : List Char} {cs : List Char} {rest : List (List Char)},
      cs.contains c = true → w ∈ rest → c :: w ∈ cs.flatMap fun c => rest.map (c :: ·) := by
    intro c w cs rest hc hw
    exact List.mem_flatMap.2 ⟨c, List.contains_iff_mem.1 hc, List.mem_map_of_mem hw⟩
  induction hw with
  | nil => exact List.mem_singleton.2 rfl
  | letter hx _ ih =>
    rw [List.all_cons, Bool.and_eq_true] at hps
    exact htake (of_allOf hps.1 hx) (ih hps.2)
  | taken hx _ ih =>
    rw [List.all_cons, Bool.and_eq_true] at hps
    exact List.mem_append_left _ (htake (of_allOf hps.1 hx) (ih hps.2))
  | omitted _ ih =>
    rw [List.all_cons, Bool.and_eq_true] at hps
    exact List.mem_append_right _ (ih hps.2)

section

variable {ps qs : List Piece} {k w : List Char}

/-- **A built-in word is one of eleven**, up to the forms of its letters. -/
theorem mem_spellings (hps : ps ∈ keywords) (hw : Spells ps w) : w.map small ∈ spellings := by
  have hlisted : (keywords.all fun ps => ps.all fun p =>
      allOf (fun c => (smallOf p).contains (small c)) p) = true := by decide +kernel
  have hwords : keywords.flatMap smallWords = spellings := by decide +kernel
  rw [← hwords]
  exact List.mem_flatMap.2 ⟨ps, hps, mem_smallWords (List.all_eq_true.1 hlisted ps hps) hw⟩

/-- The forms of a letter of a built-in word are word characters, or none of them is. -/
theorem isWordChar_small (hps : ps ∈ keywords) (hw : Spells ps w) :
    ∀ c ∈ w, Text.isWordChar (small c) = Text.isWordChar c := by
  have h : (keywords.all fun ps => ps.all
      (allOf fun c => Text.isWordChar (small c) == Text.isWordChar c)) = true := by decide +kernel
  intro c hc
  exact eq_of_beq (spells_allOf (List.all_eq_true.1 h ps hps) hw c hc)

/-- **No built-in word is a part of another one.** -/
theorem eq_of_part (hps : ps ∈ keywords) (hw : Spells ps w) (hqs : qs ∈ keywords)
    (hk : Spells qs k) (h : w <:+: k) : w = k := by
  have hparts : ∀ s ∈ spellings, ∀ t ∈ spellings, s <:+: t → s.length = t.length := by
    decide +kernel
  have hlength := hparts _ (mem_spellings hps hw) _ (mem_spellings hqs hk) (h.map small)
  rw [List.length_map, List.length_map] at hlength
  exact h.eq_of_length hlength

end

/-! ## Redaction of parts -/

namespace Redacts

variable {ps : List Piece} {before : Option Char} {x y text out out' : List Char}

/-- **Redaction has one result.** -/
theorem unique (hps : ps ∈ keywords) (h : Redacts ps before text out)
    (h' : Redacts ps before text out') : out = out' := by
  induction h generalizing out' with
  | nil =>
    generalize htext : [] = text at h'
    cases h' with
    | nil => rfl
    | keep => cases htext
    | cut hs =>
      exact absurd (List.append_eq_nil_iff.1 htext.symm).1 ((isWord_of_mem hps).ne_nil hs.spells)
  | @keep before c rest out hno _ ih =>
    generalize htext : c :: rest = text at h'
    cases h' with
    | nil => cases htext
    | keep _ h' =>
      obtain ⟨rfl, rfl⟩ := List.cons.inj htext
      exact congrArg (c :: ·) (ih h')
    | cut hs => exact absurd hs (hno _ _ htext)
  | @cut before w rest out hs _ ih =>
    generalize htext : w ++ rest = text at h'
    cases h' with
    | nil =>
      exact absurd (List.append_eq_nil_iff.1 htext).1 ((isWord_of_mem hps).ne_nil hs.spells)
    | keep hno => exact absurd hs (hno _ _ htext.symm)
    | @cut _ w' rest' out' hs' h' =>
      -- one of the two words starts the other one
      obtain rfl : w = w' := by
        rcases List.prefix_or_prefix_of_prefix (List.prefix_append w rest)
          (htext ▸ List.prefix_append w' rest') with hw | hw
        · exact eq_of_part hps hs.spells hps hs'.spells hw.isInfix
        · exact (eq_of_part hps hs'.spells hps hs.spells hw.isInfix).symm
      obtain rfl := List.append_cancel_left htext
      exact congrArg (redacted.toList ++ ·) (ih h')

/-- What stands before a text matters only next to a word character. -/
theorem behind (hps : IsWord ps) {before' : Option Char} (h : Redacts ps before text out)
    (hb : isIn Text.wordSet before = isIn Text.wordSet before' ∨
      isIn Text.wordSet text.head? = false) : Redacts ps before' text out := by
  -- a word that stands alone behind one character stands alone behind the other one
  have halone : ∀ {b b' : Option Char} {w rest : List Char}, text = w ++ rest →
      (isIn Text.wordSet b = isIn Text.wordSet b' ∨ isIn Text.wordSet text.head? = false) →
      StandsAlone ps b w rest → StandsAlone ps b' w rest := by
    intro b b' w rest htext hb hs
    refine ⟨hs.spells, ?_, hs.after⟩
    rcases hb with hb | hb
    · rw [← hb]
      exact hs.before
    · obtain ⟨c, w, rfl⟩ := List.exists_cons_of_ne_nil (hps.ne_nil hs.spells)
      rw [htext] at hb
      exact absurd (hps.starts hs.spells) (by simpa using hb)
  cases h with
  | nil => exact .nil
  | keep hno h =>
    exact .keep (fun w rest htext hs => hno w rest htext (halone htext (hb.imp_left Eq.symm) hs)) h
  | @cut _ w rest out hs h =>
    have hlast : w.getLast?.or before = w.getLast?.or before' := by
      obtain ⟨c, hc⟩ := Option.isSome_iff_exists.1 (List.getLast?_isSome.2 (hps.ne_nil hs.spells))
      rw [hc]
      rfl
    rw [hlast] at h
    exact .cut (halone rfl hb hs) h

/-- **Redaction of a whole is redaction of its parts** if at most one word character stands at the
seam, and no word lies across it. -/
theorem append (hps : IsWord ps) (hx : Redacts ps before x out) (hy : Redacts ps none y out')
    (hends : isIn Text.wordSet (x.getLast?.or before) = false ∨ isIn Text.wordSet y.head? = false)
    (hacross : ∀ u v, u <:+ x → v <+: y → u ≠ [] → v ≠ [] → ¬Spells ps (u ++ v)) :
    Redacts ps before (x ++ y) (out ++ out') := by
  induction hx with
  | nil => exact hy.behind hps (hends.imp_left Eq.symm)
  | @keep before c rest out hno _ ih =>
    have hlast : rest.getLast?.or (some c) = (c :: rest).getLast?.or before := by
      cases rest <;> simp [List.getLast?_cons]
    refine .keep (fun w back htext hs => ?_) (ih (hlast ▸ hends) fun u v hu => ?_)
    · rcases List.append_eq_append_iff.1 (show (c :: rest) ++ y = w ++ back from htext) with
        ⟨v, rfl, rfl⟩ | ⟨tail, hrest, rfl⟩
      · by_cases hv : v = []
        · subst hv
          refine hno (c :: rest) [] (List.append_nil _).symm ⟨?_, hs.before, rfl⟩
          exact List.append_nil (c :: rest) ▸ hs.spells
        · exact hacross _ v (List.suffix_refl _) (List.prefix_append v back) (List.cons_ne_nil _ _)
            hv hs.spells
      · refine hno w tail hrest ⟨hs.spells, hs.before, ?_⟩
        cases tail with
        | nil => rfl
        | cons d tail => exact hs.after
    · exact hacross u v (hu.trans (List.suffix_cons c rest))
  | @cut before w rest out hs _ ih =>
    have hlast : (w ++ rest).getLast?.or before = rest.getLast?.or (w.getLast?.or before) := by
      rw [List.getLast?_append, Option.or_assoc]
    rw [hlast] at hends
    rw [List.append_assoc, List.append_assoc]
    refine .cut ⟨hs.spells, hs.before, ?_⟩ (ih hends fun u v hu => ?_)
    · cases rest with
      | nil =>
        -- the word ends at the seam, so that no word character stands behind the seam
        rw [List.getLast?_nil, Option.none_or, hps.isIn_getLast hs.spells] at hends
        exact hends.resolve_left (by simp)
      | cons d rest => exact hs.after
    · exact hacross u v (hu.trans (List.suffix_append w rest))

/-- A redacted text ends as the text does, or with a token. -/
theorem getLast? (h : Redacts ps before text out) :
    out.getLast? = text.getLast? ∨ out.getLast? = some ']' := by
  induction h with
  | nil => exact Or.inl rfl
  | keep _ _ ih =>
    rw [List.getLast?_cons, List.getLast?_cons]
    rcases ih with ih | ih
    · exact Or.inl (by rw [ih])
    · exact Or.inr (by rw [ih]; rfl)
  | @cut before w rest out _ _ ih =>
    rw [List.getLast?_append, List.getLast?_append]
    rcases ih with ih | ih
    · cases hrest : rest.getLast? with
      | none => exact Or.inr (by rw [ih, hrest]; rfl)
      | some c => exact Or.inl (by rw [ih, hrest]; rfl)
    · exact Or.inr (by rw [ih]; rfl)

/-- A redacted text starts as the text does, or with a token. -/
theorem head? (h : Redacts ps before text out) :
    out.head? = text.head? ∨ out.head? = some '[' := by
  cases h with
  | nil | keep => exact Or.inl rfl
  | cut => exact Or.inr rfl

end Redacts

/-! ## Seams between texts -/

/-- No built-in word starts, ends or lies across the place between two texts because of what stands
on the other side. -/
structure Seam (x y : List Char) : Prop where
  ends : isIn Text.wordSet x.getLast? = false ∨ isIn Text.wordSet y.head? = false
  across : ∀ ps ∈ keywords, ∀ u v, u <:+ x → v <+: y → u ≠ [] → v ≠ [] → ¬Spells ps (u ++ v)

section

variable {p : Pattern} {l : List Pattern} {ps : List Piece} {a b k m u v x y : List Char}

theorem Pattern.redact_append (hp : p ∈ builtinPatterns) (h : Seam x y) :
    p.redact (x ++ y) = p.redact x ++ p.redact y := by
  obtain ⟨ps, hps, hreg⟩ := exists_keyword hp
  have hword := isWord_of_mem hps
  have hredacts : ∀ text, Redacts ps none text (p.redact text) := by
    intro text
    rw [Pattern.redact, hreg]
    exact replaceAll_redacts hword text
  refine (hredacts _).unique hps ((hredacts x).append hword (hredacts y) ?_ (h.across ps hps))
  rw [Option.or_none]
  exact h.ends

/-- What surrounds the gap in a built-in word of two parts. -/
theorem of_spells_append (hps : ps ∈ keywords) (h : Spells ps (u ++ v)) {c d : Char}
    (hc : u.getLast? = some c) (hd : v.head? = some d) :
    (Text.isWordChar c = false → small d = 'k') ∧
      (Text.isWordChar d = false → small c = 'i' ∨ small c = 's') := by
  have hgap : ∀ s ∈ spellings, s.IsChain fun c d => (Text.isWordChar c = false → d = 'k') ∧
      (Text.isWordChar d = false → c = 'i' ∨ c = 's') := by decide +kernel
  have hchain := hgap _ (mem_spellings hps h)
  rw [List.map_append, List.isChain_append] at hchain
  have hpair := hchain.2.2 (small c) (by rw [List.getLast?_map, hc]; rfl) (small d)
    (by rw [List.head?_map, hd]; rfl)
  have hword := isWordChar_small hps h
  rwa [hword c (List.mem_append_left _ (List.mem_of_mem_getLast? hc)),
    hword d (List.mem_append_right _ (List.mem_of_mem_head? hd))] at hpair

/-- A built-in word, or the token in its place. -/
def Block (m : List Char) : Prop := m = redacted.toList ∨ ∃ ps ∈ keywords, Spells ps m

namespace Block

/-- A block does not start as the second part of a built-in word does. -/
theorem starts (hm : Block m) : ∃ c, m.head? = some c ∧ small c ≠ 'k' := by
  rcases hm with rfl | ⟨ps, hps, hm⟩
  · exact ⟨'[', rfl, by decide⟩
  · have hheads : ∀ s ∈ spellings, s.head?.any (· ≠ 'k') = true := by decide
    have hhead := hheads _ (mem_spellings hps hm)
    rw [List.head?_map, Option.any_map] at hhead
    obtain ⟨c, hc, hne⟩ := (Option.any_eq_true _ _).1 hhead
    exact ⟨c, hc, by simpa using hne⟩

/-- A block does not end as the first part of a built-in word does. -/
theorem stops (hm : Block m) : ∃ c, m.getLast? = some c ∧ small c ≠ 'i' ∧ small c ≠ 's' := by
  rcases hm with rfl | ⟨ps, hps, hm⟩
  · exact ⟨']', rfl, by decide⟩
  · have hlasts : ∀ s ∈ spellings, s.getLast?.any (fun c => c ≠ 'i' && c ≠ 's') = true := by decide
    have hlast := hlasts _ (mem_spellings hps hm)
    rw [List.getLast?_map, Option.any_map] at hlast
    obtain ⟨c, hc, hne⟩ := (Option.any_eq_true _ _).1 hlast
    exact ⟨c, hc, by simpa using hne⟩

/-- A pattern leaves a block as it is, or puts the token in its place. -/
theorem redact (hp : p ∈ builtinPatterns) (hm : Block m) : Block (p.redact m) := by
  cases hmatch : p.isMatch m with
  | false =>
    rw [Pattern.redact_of_not_isMatch hmatch]
    exact hm
  | true =>
    refine Or.inl ?_
    obtain ⟨qs, hqs, hreg⟩ := exists_keyword hp
    have hword := isWord_of_mem hqs
    rcases hm with rfl | ⟨ps, hps, hm⟩
    · have hnone : occurs builtinPatterns redacted.toList = false := by decide +kernel
      rw [occurs, List.any_eq_false] at hnone
      exact absurd hmatch (hnone p hp)
    · -- the match is the whole block
      rw [Pattern.isMatch, hreg, Pattern.isMatch_keyword hword] at hmatch
      obtain ⟨front, w, back, rfl, hs⟩ := hmatch
      have hwhole := eq_of_part hqs hs.spells hps hm ⟨front, back, List.append_assoc _ _ _⟩
      rw [← hwhole] at hm ⊢
      have hcut : Redacts qs none w (redacted.toList ++ []) :=
        List.append_nil w ▸ .cut ⟨hs.spells, rfl, rfl⟩ .nil
      rw [Pattern.redact, hreg]
      exact (replaceAll_redacts hword w).unique hqs hcut

end Block

/-- No word lies across the start of a block. -/
theorem seam_block (ha : isIn Text.wordSet a.getLast? = false) (hm : Block m) (b : List Char) :
    Seam a (m ++ b) where
  ends := Or.inl ha
  across ps hps u v hu hv hune hvne hspells := by
    obtain ⟨front, rfl⟩ := hu
    obtain ⟨back, hback⟩ := hv
    obtain ⟨d, hd, hne⟩ := hm.starts
    obtain ⟨c, hc⟩ := Option.isSome_iff_exists.1 (List.getLast?_isSome.2 hune)
    have hv : v.head? = some d := by
      rw [← List.head?_append_of_ne_nil v hvne, hback, List.head?_append, hd, Option.some_or]
    rw [List.getLast?_append_of_ne_nil front hune, hc] at ha
    exact hne ((of_spells_append hps hspells hc hv).1 ha)

/-- No word lies across the end of a block. -/
theorem block_seam (hm : Block m) (hb : isIn Text.wordSet b.head? = false) : Seam m b where
  ends := Or.inr hb
  across ps hps u v hu hv hune hvne hspells := by
    obtain ⟨front, rfl⟩ := hu
    obtain ⟨back, rfl⟩ := hv
    obtain ⟨c, hc, hi, hs⟩ := hm.stops
    rw [List.getLast?_append_of_ne_nil front hune] at hc
    obtain ⟨d, v, rfl⟩ := List.exists_cons_of_ne_nil hvne
    exact ((of_spells_append hps hspells hc rfl).2 hb).elim hi hs

/-- **Around a block, texts are redacted for themselves.** -/
theorem redact_around_block (hl : l ⊆ builtinPatterns) (ha : isIn Text.wordSet a.getLast? = false)
    (hm : Block m) (hb : isIn Text.wordSet b.head? = false) :
    redact l (a ++ (m ++ b)) = redact l a ++ (redact l m ++ redact l b) := by
  induction l generalizing a m b with
  | nil => rfl
  | cons p l ih =>
    have hp := hl List.mem_cons_self
    have hkeeps : ∀ text, ∃ ps, Redacts ps none text (p.redact text) := fun text =>
      (redacts_of_mem hp text).imp fun _ h => h.2
    have ha' : isIn Text.wordSet (p.redact a).getLast? = false := by
      obtain ⟨ps, h⟩ := hkeeps a
      rcases h.getLast? with h | h
      · rwa [h]
      · rw [h]
        decide +kernel
    have hb' : isIn Text.wordSet (p.redact b).head? = false := by
      obtain ⟨ps, h⟩ := hkeeps b
      rcases h.head? with h | h
      · rwa [h]
      · rw [h]
        decide +kernel
    have hstep : p.redact (a ++ (m ++ b)) = p.redact a ++ (p.redact m ++ p.redact b) := by
      rw [Pattern.redact_append hp (seam_block ha hm b), Pattern.redact_append hp (block_seam hm hb)]
    have hrest : ∀ text, redact (p :: l) text = redact l (p.redact text) := fun _ => rfl
    rw [hrest, hrest, hrest, hrest, hstep]
    exact ih (List.subset_of_cons_subset hl) ha' (hm.redact hp) hb'

theorem Block.redact_all (hl : l ⊆ builtinPatterns) (hm : Block m) : Block (Sensitive.redact l m) := by
  induction l generalizing m with
  | nil => exact hm
  | cons p l ih =>
    exact ih (List.subset_of_cons_subset hl) (hm.redact (hl List.mem_cons_self))

/-- A built-in word occurs in itself. -/
theorem occurs_of_spells (hps : ps ∈ keywords) (hk : Spells ps k) :
    occurs builtinPatterns k = true := by
  have hregex : builtinPatterns.map (·.regex) = keywords.map keyword := rfl
  have hmem : keyword ps ∈ builtinPatterns.map (·.regex) := by
    rw [hregex]
    exact List.mem_map_of_mem hps
  obtain ⟨p, hp, hreg⟩ := List.mem_map.1 hmem
  refine List.any_eq_true.2 ⟨p, hp, ?_⟩
  rw [Pattern.isMatch, hreg, Pattern.isMatch_keyword (isWord_of_mem hps)]
  exact ⟨[], k, [], (List.append_nil k).symm, hk, rfl, rfl⟩

/-- **A built-in word becomes the token.** -/
theorem redact_of_spells (hps : ps ∈ keywords) (hk : Spells ps k) :
    redact builtinPatterns k = redacted.toList := by
  rcases Block.redact_all (List.Subset.refl _) (Or.inr ⟨ps, hps, hk⟩) with htoken | ⟨qs, hqs, hs⟩
  · exact htoken
  · -- a word would be left to redact
    have hleft := occurs_of_spells hqs hs
    rw [not_occurs_redact] at hleft
    cases hleft

end

/-- **Redaction conceals which word was there.** A built-in word between texts that do not touch it
with a word character becomes the token, and the texts around it are redacted for themselves. Any
other built-in word in its place gives the same result. -/
theorem redaction_conceals :
    ∃ patterns, compileWithBuiltins Pattern.ofText? [] = .ok patterns ∧
    ∀ a k b : List Char, isIn Text.wordSet a.getLast? = false →
      (∃ p ∈ patterns, p.regex.matchesWhole k = true) → isIn Text.wordSet b.head? = false →
      redact patterns (a ++ k ++ b) = redact patterns a ++ redacted.toList ++ redact patterns b ∧
      ∀ k', (∃ p ∈ patterns, p.regex.matchesWhole k' = true) →
        redact patterns (a ++ k' ++ b) = redact patterns (a ++ k ++ b) := by
  refine ⟨builtinPatterns, compile_builtins, fun a k b ha hk hb => ?_⟩
  have hword : ∀ {k}, (∃ p ∈ builtinPatterns, p.regex.matchesWhole k = true) →
      redact builtinPatterns (a ++ k ++ b) =
        redact builtinPatterns a ++ redacted.toList ++ redact builtinPatterns b := by
    rintro k ⟨p, hp, hmatch⟩
    obtain ⟨ps, hps, hreg⟩ := exists_keyword hp
    rw [hreg, Pattern.matchesWhole_keyword (isWord_of_mem hps)] at hmatch
    rw [List.append_assoc, List.append_assoc, redact_around_block (List.Subset.refl _) ha
      (Or.inr ⟨ps, hps, hmatch⟩) hb, redact_of_spells hps hmatch]
  exact ⟨hword hk, fun k' hk' => (hword hk').trans (hword hk).symm⟩

/-- A word with a Kelvin sign, between the halves of another word, and a second word in its place. -/
theorem redaction_conceals_halves :
    ∃ patterns, compileWithBuiltins Pattern.ofText? [] = .ok patterns ∧
    redact patterns ("my token, api-".toList ++ "ACCESS\u212aEY".toList ++ "-key".toList) =
      "my [redacted], api-[redacted]-key".toList ∧
    redact patterns ("my token, api-".toList ++ "secret".toList ++ "-key".toList) =
      redact patterns ("my token, api-".toList ++ "ACCESS\u212aEY".toList ++ "-key".toList) := by
  obtain ⟨patterns, hpatterns, h⟩ := redaction_conceals
  obtain rfl : builtinPatterns = patterns := Except.ok.inj (compile_builtins.symm.trans hpatterns)
  obtain ⟨hword, hother⟩ := h "my token, api-".toList "ACCESS\u212aEY".toList "-key".toList
    (by decide +kernel) (by decide +kernel) (by decide +kernel)
  exact ⟨_, hpatterns, hword.trans (by decide +kernel), hother _ (by decide +kernel)⟩

end Sensitive

end LogStyle
