import LogStyle.Rule.Lowercase
import LogStyle.Rule.Special

/-!
# What the corrections of style leave

* `Text.visible?`: the first character that is not blank. It decides whether a message starts with a
  capital (`lowered?_eq_none`), and `Special.strip` keeps it if it is no decoration
  (`visible?_strip`).
* `Special.infix_of_strip`: without its decorations a text has no stretch that is new, spaces aside.
* `Special.not_occurs_strip`: **no decoration is left.** No dots come together, as none of the
  characters between two runs of dots is removed after the dots are.
* `Special.mem_strip`: plain characters stay.
-/

namespace LogStyle

/-- A stretch without some character lies on one side of it. -/
theorem infix_append_cons {u a b : List Char} {c : Char} (hc : c ∉ u) :
    u <:+: a ++ c :: b ↔ u <:+: a ∨ u <:+: b := by
  have hfirst : ∀ {t : List Char}, t <+: c :: b → c ∉ t → t = [] := by
    intro t ht hct
    cases t with
    | nil => rfl
    | cons d t => exact absurd ((List.cons_prefix_cons.1 ht).1 ▸ List.mem_cons_self) hct
  constructor
  · intro h
    rcases List.infix_append_iff.1 h with h | h | ⟨s, t, rfl, hs, ht⟩
    · exact Or.inl h
    · rcases List.infix_cons_iff.1 h with h | h
      · rw [hfirst h hc]
        exact Or.inr (List.nil_infix)
      · exact Or.inr h
    · rw [hfirst ht fun hm => hc (List.mem_append_right _ hm), List.append_nil]
      exact Or.inl hs.isInfix
  · rintro (h | h)
    · exact List.infix_append_of_infix_left h
    · exact List.infix_append_of_infix_right (List.infix_cons h)

namespace Text

/-- The first character that is not blank. -/
def visible? (cs : List Char) : Option Char := cs.find? (!isBlank ·)

theorem visible?_cons (c : Char) (cs : List Char) :
    visible? (c :: cs) = if isBlank c then visible? cs else some c := by
  rw [visible?, List.find?_cons]
  cases h : isBlank c <;> simp [visible?]

/-! ## Words -/

theorem infix_of_mem_wordsFrom {w word cs : List Char} (h : w ∈ wordsFrom word cs) :
    w <:+: word.reverse ++ cs := by
  have hadd : ∀ {word : List Char} {rest}, w ∈ addWord word rest → w = word ∨ w ∈ rest := by
    intro word rest hw
    unfold addWord at hw
    split at hw
    · exact Or.inr hw
    · exact List.mem_cons.1 hw
  induction cs generalizing word with
  | nil =>
    rcases hadd h with rfl | h
    · exact List.infix_append_left
    · cases h
  | cons c cs ih =>
    unfold wordsFrom at h
    split at h
    · rcases hadd h with rfl | h
      · exact List.infix_append_left
      · exact List.infix_append_of_infix_right (List.infix_cons (ih h))
    · simpa using ih h

theorem infix_of_mem_words {w cs : List Char} (h : w ∈ words cs) : w <:+: cs := by
  simpa using infix_of_mem_wordsFrom h

theorem exists_mem_wordsFrom {c : Char} (hc : isBlank c = false) {word cs : List Char}
    (h : c ∈ word ∨ c ∈ cs) : ∃ w ∈ wordsFrom word cs, c ∈ w := by
  have hadd : ∀ {word : List Char} {rest}, c ∈ word ∨ (∃ w ∈ rest, c ∈ w) →
      ∃ w ∈ addWord word.reverse rest, c ∈ w := by
    intro word rest hw
    unfold addWord
    split
    · rename_i hnil
      rcases hw with hw | hw
      · rw [List.isEmpty_iff, List.reverse_eq_nil_iff] at hnil
        rw [hnil] at hw
        cases hw
      · exact hw
    · rcases hw with hw | ⟨w, hw, hcw⟩
      · exact ⟨_, List.mem_cons_self, List.mem_reverse.2 hw⟩
      · exact ⟨w, List.mem_cons_of_mem _ hw, hcw⟩
  induction cs generalizing word with
  | nil =>
    rcases h with h | h
    · exact hadd (Or.inl h)
    · cases h
  | cons d cs ih =>
    unfold wordsFrom
    split
    · rename_i hd
      rcases h with h | h
      · exact hadd (Or.inl h)
      · rcases List.mem_cons.1 h with rfl | h
        · rw [hc] at hd
          cases hd
        · exact hadd (Or.inr (ih (Or.inr h)))
    · apply ih
      rcases h with h | h
      · exact Or.inl (List.mem_cons_of_mem _ h)
      · rcases List.mem_cons.1 h with rfl | h
        · exact Or.inl List.mem_cons_self
        · exact Or.inr h

end Text

namespace Special

/-! ## Words with spaces between them -/

theorem unwords_cons_cons (w v : List Char) (ws : List (List Char)) :
    unwords (w :: v :: ws) = w ++ ' ' :: unwords (v :: ws) := by
  simp [unwords]

theorem infix_unwords {w : List Char} {ws : List (List Char)} (h : w ∈ ws) : w <:+: unwords ws := by
  induction ws with
  | nil => cases h
  | cons v ws ih =>
    cases ws with
    | nil =>
      rw [List.mem_singleton.1 h]
      exact ⟨[], [], by simp [unwords]⟩
    | cons v' ws =>
      rw [unwords_cons_cons]
      rcases List.mem_cons.1 h with rfl | h
      · exact List.infix_append_left
      · exact List.infix_append_of_infix_right (List.infix_cons (ih h))

theorem of_infix_unwords {u : List Char} (hu : ' ' ∉ u) (hne : u ≠ []) {ws : List (List Char)}
    (h : u <:+: unwords ws) : ∃ w ∈ ws, u <:+: w := by
  induction ws with
  | nil => exact absurd (List.infix_nil.1 h) hne
  | cons w ws ih =>
    cases ws with
    | nil => exact ⟨w, List.mem_singleton_self w, by simpa [unwords] using h⟩
    | cons v ws =>
      rw [unwords_cons_cons, infix_append_cons hu] at h
      rcases h with h | h
      · exact ⟨w, List.mem_cons_self, h⟩
      · obtain ⟨x, hx, hux⟩ := ih h
        exact ⟨x, List.mem_cons_of_mem _ hx, hux⟩

/-- Words in a row start like the text that they were cut from. -/
theorem visible?_unwords_wordsFrom {word cs : List Char}
    (hw : ∀ c ∈ word, Text.isBlank c = false) :
    Text.visible? (unwords (Text.wordsFrom word cs)) = Text.visible? (word.reverse ++ cs) := by
  have happend : ∀ {u : List Char}, u ≠ [] → (∀ c ∈ u, Text.isBlank c = false) → ∀ v,
      Text.visible? (u ++ v) = u.head? := by
    intro u hu hb v
    cases u with
    | nil => exact absurd rfl hu
    | cons c u => rw [List.cons_append, Text.visible?_cons, hb c List.mem_cons_self]; rfl
  have hrev : ∀ c ∈ word.reverse, Text.isBlank c = false := fun c hc => hw c (List.mem_reverse.1 hc)
  induction cs generalizing word with
  | nil =>
    unfold Text.wordsFrom Text.addWord
    split
    · rename_i hnil
      rw [List.isEmpty_iff.1 hnil]
      rfl
    · simp [unwords]
  | cons c cs ih =>
    unfold Text.wordsFrom
    split
    · rename_i hc
      unfold Text.addWord
      split
      · rename_i hnil
        rw [List.isEmpty_iff.1 hnil, ih (by simp) (by simp), List.nil_append, Text.visible?_cons,
          if_pos hc]
        rfl
      · rename_i hne
        rw [List.isEmpty_iff] at hne
        rw [happend hne hrev]
        cases Text.wordsFrom [] cs with
        | nil => simpa [unwords] using happend hne hrev []
        | cons v ws => rw [unwords_cons_cons]; exact happend hne hrev _
    · rename_i hc
      have hword : ∀ d ∈ c :: word, Text.isBlank d = false := by
        intro d hd
        rcases List.mem_cons.1 hd with rfl | hd
        · simpa using hc
        · exact hw d hd
      rw [ih hword (fun d hd => hword d (List.mem_reverse.1 hd))]
      simp

/-! ## Ellipses -/

def ellipsis : List Char := ['.', '.', '.']

theorem hasEllipsis_iff {cs : List Char} : hasEllipsis cs = true ↔ ellipsis <:+: cs := by
  induction cs with
  | nil => simp [hasEllipsis, ellipsis]
  | cons c cs ih =>
    rw [hasEllipsis, Bool.or_eq_true, ih, List.infix_cons_iff, List.isPrefixOf_iff_prefix]
    rfl

theorem occurs_iff {cs : List Char} :
    occurs cs = true ↔ ellipsis <:+: cs ∨ ∃ c ∈ cs, isSpecial c = true := by
  rw [occurs, Bool.or_eq_true, hasEllipsis_iff, List.any_eq_true]

theorem mem_of_mem_dropEllipses {c : Char} {cs : List Char} (h : c ∈ dropEllipses cs) : c ∈ cs := by
  fun_induction dropEllipses cs with
  | case1 rest ih => simp [ih h]
  | case2 d rest _ ih =>
    rcases List.mem_cons.1 h with rfl | h
    · exact List.mem_cons_self
    · exact List.mem_cons_of_mem _ (ih h)
  | case3 => cases h

theorem mem_dropEllipses {c : Char} (hc : c ≠ '.') {cs : List Char} (h : c ∈ cs) :
    c ∈ dropEllipses cs := by
  fun_induction dropEllipses cs with
  | case1 rest ih => simp only [List.mem_cons, hc, false_or] at h; exact ih h
  | case2 d rest _ ih =>
    rcases List.mem_cons.1 h with rfl | h
    · exact List.mem_cons_self
    · exact List.mem_cons_of_mem _ (ih h)
  | case3 => cases h

theorem head?_of_dropEllipses {cs : List Char} (h : (dropEllipses cs).head? = some '.') :
    cs.head? = some '.' := by
  revert h
  fun_cases dropEllipses cs with
  | case1 => exact fun _ => rfl
  | case2 => exact id
  | case3 => exact id

/-- Two dots start what is left only if they start the text. -/
theorem dots_of_dropEllipses {cs : List Char} (h : ['.', '.'] <+: dropEllipses cs) :
    ['.', '.'] <+: cs := by
  revert h
  fun_cases dropEllipses cs with
  | case1 rest => exact fun _ => ⟨'.' :: rest, rfl⟩
  | case2 c rest =>
    intro h
    obtain ⟨rfl, out, hout⟩ := List.cons_prefix_cons.1 h
    have hhead : (dropEllipses rest).head? = some '.' := by rw [← hout]; rfl
    obtain ⟨rest, rfl⟩ := List.head?_eq_some_iff.1 (head?_of_dropEllipses hhead)
    exact ⟨rest, rfl⟩
  | case3 => exact id

/-- **No ellipsis is left.** -/
theorem not_ellipsis_dropEllipses (cs : List Char) : ¬ellipsis <:+: dropEllipses cs := by
  fun_induction dropEllipses cs with
  | case1 rest ih => exact ih
  | case2 c rest hno ih =>
    intro h
    rcases List.infix_cons_iff.1 h with h | h
    -- three dots in front would have been dropped
    · obtain ⟨rfl, hdots⟩ := List.cons_prefix_cons.1 h
      obtain ⟨out, rfl⟩ := dots_of_dropEllipses hdots
      exact hno out rfl rfl
    · exact ih h
  | case3 => simp [ellipsis]

/-! ## Texts without decorations -/

/-- A character that is no blank, no dot and no decoration. -/
def isPlain (c : Char) : Bool := !Text.isBlank c && c ≠ '.' && !isSpecial c

theorem isPlain_iff {c : Char} : isPlain c = true ↔
    Text.isBlank c = false ∧ c ≠ '.' ∧ isSpecial c = false := by
  simp [isPlain, and_assoc]

/-- A stretch without spaces that is left was there when the decorations were gone. -/
theorem infix_of_strip {u text : List Char} (hu : ' ' ∉ u) (hne : u ≠ []) (h : u <:+: strip text) :
    u <:+: dropEllipses (text.filter (!isSpecial ·)) := by
  obtain ⟨w, hw, huw⟩ := of_infix_unwords hu hne h
  exact huw.trans (Text.infix_of_mem_words hw)

theorem mem_of_mem_strip {c : Char} (hc : c ≠ ' ') {text : List Char} (h : c ∈ strip text) :
    c ∈ dropEllipses (text.filter (!isSpecial ·)) := by
  obtain ⟨front, back, hcs⟩ := List.append_of_mem h
  have hinf : [c] <:+: strip text := ⟨front, back, by rw [hcs, List.append_assoc]; rfl⟩
  have hspace : ' ' ∉ [c] := fun hm => hc (List.mem_singleton.1 hm).symm
  exact (infix_of_strip hspace (List.cons_ne_nil _ _) hinf).subset (List.mem_singleton_self c)

/-- **No decoration is left.** -/
theorem not_occurs_strip (text : List Char) : occurs (strip text) = false := by
  rw [Bool.eq_false_iff, Ne, occurs_iff]
  rintro (h | ⟨c, hc, hs⟩)
  · exact not_ellipsis_dropEllipses _ (infix_of_strip (by decide) (by decide) h)
  · have hspace : c ≠ ' ' := by
      rintro rfl
      exact absurd hs (by decide)
    have hmem := mem_of_mem_dropEllipses (mem_of_mem_strip hspace hc)
    rw [List.mem_filter, hs] at hmem
    cases hmem.2

theorem mem_strip {c : Char} (hc : isPlain c = true) {text : List Char} (h : c ∈ text) :
    c ∈ strip text := by
  obtain ⟨hb, hd, hs⟩ := isPlain_iff.1 hc
  have hleft : c ∈ dropEllipses (text.filter (!isSpecial ·)) :=
    mem_dropEllipses hd (List.mem_filter.2 ⟨h, by rw [hs]; rfl⟩)
  obtain ⟨w, hw, hcw⟩ := Text.exists_mem_wordsFrom hb (Or.inr hleft)
  exact (infix_unwords hw).subset hcw

theorem visible?_filter {c : Char} (hs : isSpecial c = false) {cs : List Char}
    (h : Text.visible? cs = some c) : Text.visible? (cs.filter (!isSpecial ·)) = some c := by
  induction cs with
  | nil => cases h
  | cons d cs ih =>
    rw [Text.visible?_cons] at h
    split at h
    · rename_i hd
      have hrest := ih h
      rw [List.filter_cons]
      split
      · rw [Text.visible?_cons, if_pos hd, hrest]
      · exact hrest
    · rename_i hd
      obtain rfl := Option.some.inj h
      rw [List.filter_cons_of_pos (by rw [hs]; rfl), Text.visible?_cons, if_neg hd]

theorem visible?_dropEllipses {c : Char} (hc : c ≠ '.') {cs : List Char}
    (h : Text.visible? cs = some c) : Text.visible? (dropEllipses cs) = some c := by
  fun_induction dropEllipses cs with
  | case1 rest ih => exact absurd (Option.some.inj h).symm hc
  | case2 d rest _ ih =>
    rw [Text.visible?_cons] at h ⊢
    split at h
    · rename_i hd; rw [if_pos hd, ih h]
    · rename_i hd; rw [if_neg hd, h]
  | case3 => cases h

/-- The first visible character stays, unless it is a decoration or a dot. -/
theorem visible?_strip {c : Char} (hc : isPlain c = true) {text : List Char}
    (h : Text.visible? text = some c) : Text.visible? (strip text) = some c := by
  obtain ⟨-, hd, hs⟩ := isPlain_iff.1 hc
  rw [strip, Text.words, visible?_unwords_wordsFrom (by simp)]
  exact visible?_dropEllipses hd (visible?_filter hs h)

/-- A plain character decides nothing about decorations. -/
theorem occurs_append_cons {c d : Char} (hc : isPlain c = true) (hd : isPlain d = true)
    (front back : List Char) : occurs (front ++ c :: back) = occurs (front ++ d :: back) := by
  -- decorations lie in front of a plain character or behind it
  have key : ∀ {c : Char}, isPlain c = true → (occurs (front ++ c :: back) = true ↔
      (ellipsis <:+: front ∨ ellipsis <:+: back) ∨
        ∃ x, (x ∈ front ∨ x ∈ back) ∧ isSpecial x = true) := by
    intro c hc
    obtain ⟨-, hdot, hs⟩ := isPlain_iff.1 hc
    rw [occurs_iff, infix_append_cons (by simp [ellipsis, hdot])]
    refine or_congr_right (exists_congr fun x => and_congr_left fun hx => ?_)
    have hxc : x ≠ c := by
      rintro rfl
      rw [hs] at hx
      cases hx
    simp [hxc]
  exact Bool.eq_iff_iff.2 ((key hc).trans (key hd).symm)

end Special

/-! ## Capitals -/

namespace Lowercase

/-- A property of all capitals, checked one by one. -/
theorem of_isUpper {P : Char → Bool} (h : ∀ n < 91, 65 ≤ n → P (Char.ofNat n) = true) {c : Char}
    (hc : c.isUpper = true) : P c = true := by
  have hn : 65 ≤ c.toNat ∧ c.toNat < 91 := by
    obtain ⟨hlo, hhi⟩ : c.val ≥ 'A'.val ∧ c.val ≤ 'Z'.val := of_decide_eq_true hc
    exact ⟨UInt32.le_iff_toNat_le.1 hlo, Nat.lt_succ_of_le (UInt32.le_iff_toNat_le.1 hhi)⟩
  have := h c.toNat hn.2 hn.1
  rwa [Char.ofNat_toNat] at this

theorem isPlain_of_isUpper {c : Char} (hc : c.isUpper = true) : Special.isPlain c = true :=
  of_isUpper (by decide) hc

theorem isPlain_toLower {c : Char} (hc : c.isUpper = true) : Special.isPlain c.toLower = true :=
  of_isUpper (P := fun c => Special.isPlain c.toLower) (by decide) hc

theorem isUpper_toLower {c : Char} (hc : c.isUpper = true) : c.toLower.isUpper = false := by
  simpa only [Bool.not_eq_true'] using of_isUpper (P := fun c => !c.toLower.isUpper) (by decide) hc

/-- A text with a capital that is put in lower case. -/
theorem lowered?_eq_some {cs out : List Char} (h : lowered? cs = some out) :
    ∃ front c back, c.isUpper = true ∧ cs = front ++ c :: back ∧ out = front ++ c.toLower :: back ∧
      ∀ d ∈ front, Text.isBlank d = true := by
  induction cs generalizing out with
  | nil => cases h
  | cons c cs ih =>
    rw [lowered?] at h
    split at h
    · rename_i hb
      obtain ⟨rest, hrest, rfl⟩ := Option.map_eq_some_iff.1 h
      obtain ⟨front, d, back, hd, rfl, rfl, hfront⟩ := ih hrest
      exact ⟨c :: front, d, back, hd, rfl, rfl, by simpa [hb] using hfront⟩
    · split at h
      · rename_i hc
        obtain rfl := Option.some.inj h
        exact ⟨[], c, cs, hc, rfl, rfl, by simp⟩
      · cases h

theorem lowered?_eq_none {cs : List Char} :
    lowered? cs = none ↔ (Text.visible? cs).any Char.isUpper = false := by
  induction cs with
  | nil => simp [lowered?, Text.visible?]
  | cons c cs ih =>
    rw [lowered?, Text.visible?_cons]
    split
    · rw [Option.map_eq_none_iff, ih]
    · split <;> simp_all

theorem visible?_append {front : List Char} (h : ∀ d ∈ front, Text.isBlank d = true)
    (rest : List Char) : Text.visible? (front ++ rest) = Text.visible? rest := by
  induction front with
  | nil => rfl
  | cons d front ih =>
    rw [List.cons_append, Text.visible?_cons, if_pos (h d List.mem_cons_self),
      ih fun x hx => h x (List.mem_cons_of_mem _ hx)]

end Lowercase

end LogStyle
