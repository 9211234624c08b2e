import LogStyle.Pattern.Search

/-!
# What a keyword matches

A keyword is an expression that matches some letters, of which one may be optional, between two word
boundaries. The regular expressions of sensitive words are of this form.

* `Cursor.Follows`: one place lies behind another one, with a given stretch between them. Places
  that follow one place are told apart by their number (`Cursor.Follows.unique`), so that `distinct`
  drops nothing but repetitions (`mem_distinct`).
* `Spells`: the words that the letters of a keyword spell.
* `mem_ends_keyword`: the matches of a keyword are its words between two boundaries.
* `isMatch_keyword`: **a keyword matches where one of its words stands alone.**
-/

namespace LogStyle.Pattern

/-! ## Places that follow a place -/

/-- The place `d` lies behind the place `c`, and `w` stands between them. -/
def Cursor.Follows (c : Cursor) (w : List Char) (d : Cursor) : Prop :=
  c.rest = w ++ d.rest ∧ d.pos = c.pos + w.length ∧ d.before = w.getLast?.or c.before

namespace Cursor.Follows

variable {c d e : Cursor} {v w : List Char}

theorem refl (c : Cursor) : c.Follows [] c := ⟨rfl, rfl, rfl⟩

theorem trans (h₁ : c.Follows v d) (h₂ : d.Follows w e) : c.Follows (v ++ w) e := by
  obtain ⟨hr₁, hp₁, hb₁⟩ := h₁
  obtain ⟨hr₂, hp₂, hb₂⟩ := h₂
  refine ⟨by rw [hr₁, hr₂, List.append_assoc], by rw [hp₂, hp₁, List.length_append, Nat.add_assoc], ?_⟩
  rw [hb₂, hb₁, List.getLast?_append, Option.or_assoc]

theorem unique (h₁ : c.Follows v d) (h₂ : c.Follows w e) (hp : d.pos = e.pos) : d = e := by
  obtain ⟨hr₁, hp₁, hb₁⟩ := h₁
  obtain ⟨hr₂, hp₂, hb₂⟩ := h₂
  obtain ⟨rfl, hr⟩ := List.append_inj (hr₁.symm.trans hr₂) (by omega)
  cases d; cases e
  simp_all

/-- A stretch of several characters goes through the place after the first one. -/
theorem uncons {x : Char} (h : c.Follows (x :: w) e) :
    ∃ d : Cursor, c.Follows [x] d ∧ d.Follows w e := by
  obtain ⟨hr, hp, hb⟩ := h
  refine ⟨⟨c.pos + 1, some x, w ++ e.rest⟩, ⟨hr, rfl, rfl⟩, rfl, ?_, ?_⟩
  · rw [hp, List.length_cons]; simp only; omega
  · rw [hb]; cases w <;> simp [List.getLast?_cons]

end Cursor.Follows

theorem mem_foldl_addPlace {c d : Cursor} {places : List Cursor} :
    ∀ {out : List Cursor}, (∀ e ∈ out ++ places, ∃ w, c.Follows w e) →
      (d ∈ places.foldl addPlace out ↔ d ∈ out ∨ d ∈ places) := by
  induction places with
  | nil => simp
  | cons p places ih =>
    intro out h
    rw [List.foldl_cons, addPlace]
    split
    · -- a place with this number is listed already, and it is the same place
      rename_i hany
      obtain ⟨e, he, hpos⟩ := List.any_eq_true.1 hany
      obtain ⟨v, hv⟩ := h p (by simp)
      obtain ⟨w, hw⟩ := h e (by simp [he])
      obtain rfl : e = p := hw.unique hv (by simpa using hpos)
      rw [ih fun x hx => h x (by grind), List.mem_cons]
      grind
    · rw [ih fun x hx => h x (by grind), List.mem_cons, List.mem_cons]
      grind

theorem mem_distinct {c d : Cursor} {places : List Cursor} (h : ∀ e ∈ places, ∃ w, c.Follows w e) :
    d ∈ distinct places ↔ d ∈ places := by
  rw [distinct, List.mem_reverse, mem_foldl_addPlace (c := c) (by simpa using h)]
  simp

/-! ## Matches of the parts of a keyword -/

/-- Every match of the expression goes forward in the text. -/
def Regex.Forward (r : Regex) : Prop := ∀ c, ∀ d ∈ r.ends c, ∃ w, c.Follows w d

theorem mem_ends_chars {set : CodeSet} {c d : Cursor} :
    d ∈ (Regex.chars set).ends c ↔ ∃ x, set.mem x = true ∧ c.Follows [x] d := by
  obtain ⟨pos, before, rest⟩ := c
  rw [Regex.ends]
  cases rest with
  | nil => simp [Cursor.Follows]
  | cons x rest =>
    simp only [Cursor.Follows, List.cons_append, List.nil_append, List.cons.injEq]
    constructor
    · intro h
      split at h
      · rename_i hx
        rw [List.mem_singleton] at h
        exact ⟨x, hx, by simp [h]⟩
      · cases h
    · rintro ⟨y, hy, ⟨rfl, hr⟩, hp, hb⟩
      rw [if_pos hy, List.mem_singleton]
      cases d
      simp_all

theorem mem_ends_check {a : Assertion} {c d : Cursor} :
    d ∈ (Regex.check a).ends c ↔ a.holds c = true ∧ d = c := by
  rw [Regex.ends]
  split <;> simp_all

theorem forward_chars (set : CodeSet) : (Regex.chars set).Forward := fun _ _ hd =>
  let ⟨x, _, h⟩ := mem_ends_chars.1 hd
  ⟨[x], h⟩

theorem forward_check (a : Assertion) : (Regex.check a).Forward := fun c _ hd =>
  ⟨[], (mem_ends_check.1 hd).2 ▸ Cursor.Follows.refl c⟩

theorem mem_ends_cat {r s : Regex} (hr : r.Forward) (hs : s.Forward) {c d : Cursor} :
    d ∈ (Regex.cat r s).ends c ↔ ∃ e ∈ r.ends c, d ∈ s.ends e := by
  rw [Regex.ends, mem_distinct (c := c), List.mem_flatMap]
  intro x hx
  obtain ⟨e, he, hx⟩ := List.mem_flatMap.1 hx
  obtain ⟨v, hv⟩ := hr c e he
  obtain ⟨w, hw⟩ := hs e x hx
  exact ⟨v ++ w, hv.trans hw⟩

theorem forward_cat {r s : Regex} (hr : r.Forward) (hs : s.Forward) : (Regex.cat r s).Forward := by
  intro c d hd
  obtain ⟨e, he, hd⟩ := (mem_ends_cat hr hs).1 hd
  obtain ⟨v, hv⟩ := hr c e he
  obtain ⟨w, hw⟩ := hs e d hd
  exact ⟨v ++ w, hv.trans hw⟩

/-- An optional character: the place after it, or the place itself. -/
theorem mem_ends_optional {set : CodeSet} {c d : Cursor} :
    d ∈ (Regex.rep (.chars set) 0 (some 1) true).ends c ↔ d ∈ (Regex.chars set).ends c ∨ d = c := by
  have hplaces : ∀ e ∈ (Regex.chars set).ends c ++ [c], ∃ w, c.Follows w e := by
    intro e he
    rcases List.mem_append.1 he with he | he
    · exact forward_chars set c e he
    · exact ⟨[], List.mem_singleton.1 he ▸ Cursor.Follows.refl c⟩
  have hends : (Regex.rep (.chars set) 0 (some 1) true).ends c =
      distinct (distinct ((Regex.chars set).ends c ++ [c])) := by
    rw [Regex.ends.eq_6]
    simp [times, upTo]
  rw [hends, mem_distinct (c := c), mem_distinct hplaces, List.mem_append, List.mem_singleton]
  exact fun e he => hplaces e ((mem_distinct hplaces).1 he)

/-! ## Keywords -/

/-- A letter of a keyword, in any of its forms. -/
inductive Piece where
  | letter (set : CodeSet)
  | optional (set : CodeSet)
  deriving DecidableEq, Repr

namespace Piece

/-- The characters that a piece may stand for. -/
def set : Piece → CodeSet
  | letter set => set
  | optional set => set

def regex : Piece → Regex
  | letter set => .chars set
  | optional set => .rep (.chars set) 0 (some 1) true

theorem forward_regex (p : Piece) : p.regex.Forward := by
  cases p with
  | letter set => exact forward_chars set
  | optional set =>
    intro c d hd
    rcases mem_ends_optional.1 hd with hd | rfl
    · exact forward_chars set c d hd
    · exact ⟨[], Cursor.Follows.refl d⟩

end Piece

/-- The words that some pieces spell. -/
inductive Spells : List Piece → List Char → Prop where
  | nil : Spells [] []
  | letter {set c ps w} : set.mem c = true → Spells ps w → Spells (.letter set :: ps) (c :: w)
  | taken {set c ps w} : set.mem c = true → Spells ps w → Spells (.optional set :: ps) (c :: w)
  | omitted {set ps w} : Spells ps w → Spells (.optional set :: ps) w

/-- The boundary of a word. -/
def boundary : Assertion := .wordBoundary Text.wordSet

/-- The pieces one after the other, and a boundary behind them. -/
def bounded (ps : List Piece) : Regex := ps.foldr (fun p r => .cat p.regex r) (.check boundary)

/-- The expression for some pieces between two boundaries. -/
def keyword (ps : List Piece) : Regex := .cat .empty (.cat (.check boundary) (bounded ps))

theorem forward_bounded (ps : List Piece) : (bounded ps).Forward := by
  induction ps with
  | nil => exact forward_check boundary
  | cons p ps ih => exact forward_cat p.forward_regex ih

theorem mem_ends_bounded {ps : List Piece} {c d : Cursor} :
    d ∈ (bounded ps).ends c ↔ ∃ w, Spells ps w ∧ c.Follows w d ∧ boundary.holds d = true := by
  induction ps generalizing c with
  | nil =>
    refine mem_ends_check.trans ⟨?_, ?_⟩
    · rintro ⟨hb, rfl⟩
      exact ⟨[], .nil, .refl d, hb⟩
    · rintro ⟨w, hw, hf, hb⟩
      cases hw
      rw [(Cursor.Follows.refl c).unique hf (by rw [hf.2.1]; rfl)]
      exact ⟨hb, rfl⟩
  | cons p ps ih =>
    refine (mem_ends_cat p.forward_regex (forward_bounded ps)).trans ?_
    simp only [ih]
    constructor
    · rintro ⟨e, he, w, hw, hf, hb⟩
      cases p with
      | letter set =>
        obtain ⟨x, hx, hxe⟩ := mem_ends_chars.1 he
        exact ⟨x :: w, .letter hx hw, hxe.trans hf, hb⟩
      | optional set =>
        rcases mem_ends_optional.1 he with he | rfl
        · obtain ⟨x, hx, hxe⟩ := mem_ends_chars.1 he
          exact ⟨x :: w, .taken hx hw, hxe.trans hf, hb⟩
        · exact ⟨w, .omitted hw, hf, hb⟩
    · rintro ⟨w, hw, hf, hb⟩
      cases hw with
      | letter hx hw =>
        obtain ⟨e, hce, hed⟩ := hf.uncons
        exact ⟨e, mem_ends_chars.2 ⟨_, hx, hce⟩, _, hw, hed, hb⟩
      | taken hx hw =>
        obtain ⟨e, hce, hed⟩ := hf.uncons
        exact ⟨e, mem_ends_optional.2 (Or.inl (mem_ends_chars.2 ⟨_, hx, hce⟩)), _, hw, hed, hb⟩
      | omitted hw => exact ⟨c, mem_ends_optional.2 (Or.inr rfl), w, hw, hf, hb⟩

/-- **The matches of a keyword** are its words between two boundaries. -/
theorem mem_ends_keyword {ps : List Piece} {c d : Cursor} :
    d ∈ (keyword ps).ends c ↔
      boundary.holds c = true ∧ ∃ w, Spells ps w ∧ c.Follows w d ∧ boundary.holds d = true := by
  have hempty : Regex.empty.Forward := fun c d hd =>
    ⟨[], by rw [Regex.ends, List.mem_singleton] at hd; exact hd ▸ Cursor.Follows.refl c⟩
  have hb := forward_bounded ps
  have hc := forward_check boundary
  rw [keyword, mem_ends_cat hempty (forward_cat hc hb)]
  simp only [Regex.ends.eq_1, List.mem_singleton, exists_eq_left, mem_ends_cat hc hb, mem_ends_check,
    and_assoc, exists_and_left, mem_ends_bounded]

/-! ## Words that stand alone -/

/-- The words of some pieces start and end with word characters. -/
structure IsWord (ps : List Piece) : Prop where
  starts : ∀ {w}, Spells ps w → isIn Text.wordSet w.head? = true
  stops : ∀ {w}, Spells ps w → isIn Text.wordSet w.getLast? = true

theorem IsWord.ne_nil {ps : List Piece} {w : List Char} (hps : IsWord ps) (hw : Spells ps w) :
    w ≠ [] := by
  rintro rfl
  exact absurd (hps.starts hw) (by decide)

theorem IsWord.isIn_getLast {ps : List Piece} {w : List Char} (hps : IsWord ps) (hw : Spells ps w)
    (before : Option Char) : isIn Text.wordSet (w.getLast?.or before) = true := by
  obtain ⟨x, hx⟩ := Option.isSome_iff_exists.1 (List.getLast?_isSome.2 (hps.ne_nil hw))
  rw [hx, Option.some_or, ← hx]
  exact hps.stops hw

/-- The word `w` is spelled by some pieces, and no word character stands before it or after it. -/
structure StandsAlone (ps : List Piece) (before : Option Char) (w rest : List Char) : Prop where
  spells : Spells ps w
  before : isIn Text.wordSet before = false
  after : isIn Text.wordSet rest.head? = false

section

variable {ps : List Piece} (hps : IsWord ps)

include hps

theorem mem_ends_keyword_iff {c d : Cursor} : d ∈ (keyword ps).ends c ↔
    ∃ w, StandsAlone ps c.before w d.rest ∧ c.Follows w d := by
  rw [mem_ends_keyword]
  -- next to a word character, a boundary means that there is none on the other side
  have hstart : ∀ {w : List Char}, Spells ps w → c.Follows w d →
      (boundary.holds c = true ↔ isIn Text.wordSet c.before = false) := by
    intro w hw hf
    have hhead : isIn Text.wordSet c.rest.head? = true := by
      rw [hf.1, ← hps.starts hw]
      cases w with
      | nil => exact absurd rfl (hps.ne_nil hw)
      | cons x w => rfl
    simp [boundary, Assertion.holds, hhead]
  have hstop : ∀ {w : List Char}, Spells ps w → c.Follows w d →
      (boundary.holds d = true ↔ isIn Text.wordSet d.rest.head? = false) := by
    intro w hw hf
    have hlast : isIn Text.wordSet d.before = true := hf.2.2 ▸ hps.isIn_getLast hw c.before
    simp [boundary, Assertion.holds, hlast]
  constructor
  · rintro ⟨hc, w, hw, hf, hd⟩
    exact ⟨w, ⟨hw, (hstart hw hf).1 hc, (hstop hw hf).1 hd⟩, hf⟩
  · rintro ⟨w, hw, hf⟩
    exact ⟨(hstart hw.spells hf).2 hw.before, w, hw.spells, hf, (hstop hw.spells hf).2 hw.after⟩

theorem matchAt?_keyword_isSome (pos : Nat) {before : Option Char} {cs : List Char} :
    ((keyword ps).matchAt? ⟨pos, before, cs⟩).isSome = true ↔
      ∃ w rest, cs = w ++ rest ∧ StandsAlone ps before w rest := by
  rw [Regex.matchAt?, List.isSome_head?]
  constructor
  · intro h
    obtain ⟨d, hd⟩ := List.exists_mem_of_ne_nil _ h
    obtain ⟨w, hw, hf⟩ := (mem_ends_keyword_iff hps).1 hd
    exact ⟨w, d.rest, hf.1, hw⟩
  · rintro ⟨w, rest, hcs, hw⟩
    let d : Cursor := ⟨pos + w.length, w.getLast?.or before, rest⟩
    exact List.ne_nil_of_mem (a := d) ((mem_ends_keyword_iff hps).2 ⟨w, hw, hcs, rfl, rfl⟩)

theorem matchesFrom_keyword {text : List Char} {pos : Nat} {before : Option Char} :
    (keyword ps).matchesFrom pos before text = true ↔
      ∃ front w back, text = front ++ (w ++ back) ∧
        StandsAlone ps (front.getLast?.or before) w back := by
  induction text generalizing pos before with
  | nil =>
    rw [Regex.matchesFrom, matchAt?_keyword_isSome hps]
    constructor
    · rintro ⟨w, rest, hcs, hs⟩
      exact ⟨[], w, rest, hcs, hs⟩
    · rintro ⟨front, w, back, htext, hs⟩
      have hw := (List.append_eq_nil_iff.1 (List.append_eq_nil_iff.1 htext.symm).2).1
      exact absurd hw (hps.ne_nil hs.spells)
  | cons c text ih =>
    rw [Regex.matchesFrom, Bool.or_eq_true, ih, matchAt?_keyword_isSome hps]
    constructor
    · rintro (⟨w, rest, hcs, hs⟩ | ⟨front, w, back, rfl, hs⟩)
      · exact ⟨[], w, rest, hcs, hs⟩
      · refine ⟨c :: front, w, back, rfl, ?_⟩
        rw [List.getLast?_cons]
        cases front <;> simpa using hs
    · rintro ⟨front, w, back, htext, hs⟩
      cases front with
      | nil => exact Or.inl ⟨w, back, htext, hs⟩
      | cons d front =>
        rw [List.cons_append, List.cons.injEq] at htext
        obtain ⟨rfl, rfl⟩ := htext
        refine Or.inr ⟨front, w, back, rfl, ?_⟩
        rw [List.getLast?_cons] at hs
        cases front <;> simpa using hs

/-- **A keyword matches where one of its words stands alone.** -/
theorem isMatch_keyword {text : List Char} : (keyword ps).isMatch text = true ↔
    ∃ front w back, text = front ++ (w ++ back) ∧ StandsAlone ps front.getLast? w back := by
  rw [Regex.isMatch, matchesFrom_keyword hps]
  simp

end

end LogStyle.Pattern
