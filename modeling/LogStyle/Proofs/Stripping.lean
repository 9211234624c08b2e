import LogStyle.Proofs.Decorations
import Mathlib.Data.List.SplitBy

/-!
# What stripping a text does, and what it does not

Decorated characters go first, then ellipses, then the blanks are put in order. No step brings back
what an earlier one has removed, and nothing else is changed.

* `Text.words_append_blank`: words are cut at blanks, whatever stands around.
* `Text.Tidy`: a text whose blanks are single spaces between words.
* `Special.words_unwords`, `Special.tidy_unwords`: words in a row are read back, and are tidy.
* `Special.shortened`: a text with each run of dots cut to the remainder of its length by three.
* `Special.dropEllipses_eq_shortened`: removing three dots at a time does just this.
* `Special.strip_cleans`: **stripping removes the decorations, shortens the runs of dots, puts the
  blanks in order and changes nothing else.**
-/

namespace LogStyle

namespace Text

variable {c : Char} {cs x y w : List Char}

/-! ## Words -/

/-- A word: some characters that are not blank. -/
structure Solid (w : List Char) : Prop where
  ne_nil : w ≠ []
  visible : ∀ c ∈ w, isBlank c = false

theorem addWord_append (word : List Char) (words more : List (List Char)) :
    addWord word (words ++ more) = addWord word words ++ more := by
  unfold addWord
  split <;> rfl

theorem wordsFrom_append_blank (hc : isBlank c = true) (word : List Char) :
    wordsFrom word (x ++ c :: y) = wordsFrom word x ++ words y := by
  induction x generalizing word with
  | nil =>
    rw [List.nil_append, wordsFrom, wordsFrom, if_pos hc, ← addWord_append]
    rfl
  | cons d x ih =>
    rw [List.cons_append, wordsFrom, wordsFrom]
    split
    · rw [ih, addWord_append]
    · exact ih _

/-- **Words are cut at blanks,** whatever stands around. -/
theorem words_append_blank (hc : isBlank c = true) : words (x ++ c :: y) = words x ++ words y :=
  wordsFrom_append_blank hc []

theorem wordsFrom_of_visible (h : ∀ c ∈ w, isBlank c = false) (word : List Char) :
    wordsFrom word w = addWord (word.reverse ++ w) [] := by
  induction w generalizing word with
  | nil => simp [wordsFrom]
  | cons c w ih =>
    have hc : isBlank c = false := h c List.mem_cons_self
    rw [wordsFrom, if_neg (by simp [hc]), ih fun d hd => h d (List.mem_cons_of_mem _ hd)]
    simp

theorem words_of_solid (h : Solid w) : words w = [w] := by
  rw [words, wordsFrom_of_visible h.visible]
  simp [addWord, h.ne_nil]

theorem solid_of_mem_wordsFrom {word : List Char} (hword : ∀ c ∈ word, isBlank c = false)
    (h : w ∈ wordsFrom word cs) : Solid w := by
  have hadd : ∀ {word : List Char} {rest : List (List Char)},
      (∀ c ∈ word, isBlank c = false) → (∀ w ∈ rest, Solid w) →
      ∀ w ∈ addWord word.reverse rest, Solid w := by
    intro word rest hword hrest w hw
    unfold addWord at hw
    split at hw
    · exact hrest w hw
    · rename_i hne
      rcases List.mem_cons.1 hw with rfl | hw
      · exact ⟨by simpa using hne, fun c hc => hword c (List.mem_reverse.1 hc)⟩
      · exact hrest w hw
  induction cs generalizing word w with
  | nil => exact hadd hword (by simp) w h
  | cons c cs ih =>
    unfold wordsFrom at h
    split at h
    · exact hadd hword (fun v hv => ih (by simp) hv) w h
    · rename_i hc
      refine ih (fun d hd => ?_) h
      rcases List.mem_cons.1 hd with rfl | hd
      · simpa using hc
      · exact hword d hd

theorem solid_of_mem_words (h : w ∈ words cs) : Solid w := solid_of_mem_wordsFrom (by simp) h

/-- The words of a text hold what is not blank, in its order. -/
theorem flatten_wordsFrom {word : List Char} :
    (wordsFrom word cs).flatten = word.reverse ++ cs.filter (!isBlank ·) := by
  have hadd : ∀ (word : List Char) (rest : List (List Char)),
      (addWord word rest).flatten = word ++ rest.flatten := by
    intro word rest
    unfold addWord
    split
    · rename_i hnil
      rw [List.isEmpty_iff.1 hnil, List.nil_append]
    · rfl
  induction cs generalizing word with
  | nil => simp [wordsFrom, hadd]
  | cons c cs ih =>
    unfold wordsFrom
    split
    · rename_i hc
      rw [hadd, ih, List.filter_cons_of_neg (by simp [hc])]
      rfl
    · rename_i hc
      rw [ih, List.filter_cons_of_pos (by simpa using hc)]
      simp

theorem flatten_words : (words cs).flatten = cs.filter (!isBlank ·) := flatten_wordsFrom

/-- A text whose blanks are single spaces between its words. -/
structure Tidy (cs : List Char) : Prop where
  leading : ∀ c ∈ cs.head?, isBlank c = false
  trailing : ∀ c ∈ cs.getLast?, isBlank c = false
  /-- Of two neighbours at least one is not blank. -/
  single : cs.IsChain fun c d => isBlank c = false ∨ isBlank d = false
  space : ∀ c ∈ cs, isBlank c = true → c = ' '

theorem Solid.tidy (h : Solid w) : Tidy w where
  leading c hc := h.visible c (List.mem_of_mem_head? hc)
  trailing c hc := h.visible c (List.mem_of_mem_getLast? hc)
  single := by
    refine List.Pairwise.isChain (List.pairwise_iff_forall_sublist.2 fun {c d} hsub => ?_)
    exact .inl (h.visible c (hsub.subset List.mem_cons_self))
  space c hc hblank := by
    rw [h.visible c hc] at hblank
    cases hblank

/-- A word may be put in front of a tidy text, with a space between them. -/
theorem Solid.tidy_append (h : Solid w) (hne : cs ≠ []) (hcs : Tidy cs) :
    Tidy (w ++ ' ' :: cs) where
  leading := by
    rw [List.head?_append_of_ne_nil _ h.ne_nil]
    exact h.tidy.leading
  trailing := by
    rw [List.getLast?_append_of_ne_nil _ (List.cons_ne_nil _ _), List.getLast?_cons_of_ne_nil hne]
    exact hcs.trailing
  single := by
    rw [List.isChain_append, List.isChain_cons]
    refine ⟨h.tidy.single, ⟨fun d hd => .inr (hcs.leading d hd), hcs.single⟩, fun c hc d _ => ?_⟩
    exact .inl (h.tidy.trailing c hc)
  space c hc hblank := by
    rcases List.mem_append.1 hc with hc | hc
    · exact h.tidy.space c hc hblank
    · rcases List.mem_cons.1 hc with rfl | hc
      · rfl
      · exact hcs.space c hc hblank

end Text

namespace Special

open Text (words Solid Tidy isBlank)

variable {cs front back : List Char} {ws : List (List Char)} {n : Nat}

/-! ## Words in a row -/

theorem isBlank_space : isBlank ' ' = true := by decide

theorem unwords_singleton (w : List Char) : unwords [w] = w := by
  simp [unwords]

/-- A row of words is empty only if there are none. -/
theorem unwords_ne_nil {w : List Char} (hw : Solid w) : unwords (w :: ws) ≠ [] := by
  cases ws with
  | nil =>
    rw [unwords_singleton]
    exact hw.ne_nil
  | cons v ws =>
    rw [unwords_cons_cons]
    simp

/-- **Words in a row are read back.** -/
theorem words_unwords (h : ∀ w ∈ ws, Solid w) : words (unwords ws) = ws := by
  induction ws with
  | nil => rfl
  | cons w ws ih =>
    have hw := h w List.mem_cons_self
    cases ws with
    | nil => rw [unwords_singleton, Text.words_of_solid hw]
    | cons v ws =>
      rw [unwords_cons_cons, Text.words_append_blank isBlank_space, Text.words_of_solid hw,
        ih fun u hu => h u (List.mem_cons_of_mem _ hu)]
      rfl

/-- **Words in a row are tidy.** -/
theorem tidy_unwords (h : ∀ w ∈ ws, Solid w) : Tidy (unwords ws) := by
  induction ws with
  | nil => exact ⟨by simp [unwords], by simp [unwords], .nil, by simp [unwords]⟩
  | cons w ws ih =>
    have hw := h w List.mem_cons_self
    cases ws with
    | nil =>
      rw [unwords_singleton]
      exact hw.tidy
    | cons v ws =>
      rw [unwords_cons_cons]
      have hv := h v (List.mem_cons_of_mem _ List.mem_cons_self)
      exact hw.tidy_append (unwords_ne_nil hv) (ih fun u hu => h u (List.mem_cons_of_mem _ hu))

theorem filter_unwords {p : Char → Bool} (hp : p ' ' = false) (ws : List (List Char)) :
    (unwords ws).filter p = ws.flatten.filter p := by
  induction ws with
  | nil => rfl
  | cons w ws ih =>
    cases ws with
    | nil => simp [unwords_singleton]
    | cons v ws =>
      have hflatten : (w :: v :: ws).flatten = w ++ (v :: ws).flatten := List.flatten_cons
      rw [unwords_cons_cons, List.filter_append, List.filter_cons_of_neg (by simp [hp]), ih,
        hflatten, List.filter_append]

/-! ## Runs of dots -/

/-- The text with each maximal run of dots cut to the remainder of its length by three. -/
def shortened (cs : List Char) : List Char :=
  (cs.splitBy fun c d => c = '.' && d = '.').flatMap fun run =>
    if run.head? = some '.' then List.replicate (run.length % 3) '.' else run

theorem shortened_append (h : front.getLast? ≠ some '.' ∨ back.head? ≠ some '.') :
    shortened (front ++ back) = shortened front ++ shortened back := by
  rw [shortened, List.splitBy_append, List.flatMap_append]
  · rfl
  · intro c hc d hd
    have hnot : ¬(c = '.' ∧ d = '.') := by
      rintro ⟨rfl, rfl⟩
      rcases h with h | h
      · exact h hc
      · exact h hd
    simpa using hnot

theorem shortened_singleton {c : Char} (hc : c ≠ '.') : shortened [c] = [c] := by
  simp [shortened, List.splitBy, List.splitBy.loop, hc]

theorem shortened_replicate (n : Nat) :
    shortened (List.replicate n '.') = List.replicate (n % 3) '.' := by
  cases n with
  | zero => rfl
  | succ n =>
    rw [shortened, List.splitBy_of_isChain (by simp)]
    · simp [List.replicate_succ]
    · exact List.isChain_replicate_of_rel _ (by simp)

/-- **A maximal run of dots is left with the remainder of its length by three.** -/
theorem shortened_run (hfront : front.getLast? ≠ some '.') (hback : back.head? ≠ some '.') :
    shortened (front ++ List.replicate n '.' ++ back) =
      shortened front ++ List.replicate (n % 3) '.' ++ shortened back := by
  rw [shortened_append (.inr hback), shortened_append (.inl hfront), shortened_replicate]

theorem exists_run (cs : List Char) :
    ∃ n rest, cs = List.replicate n '.' ++ rest ∧ rest.head? ≠ some '.' := by
  induction cs with
  | nil => exact ⟨0, [], rfl, by simp⟩
  | cons c cs ih =>
    by_cases hc : c = '.'
    · obtain ⟨n, rest, rfl, hrest⟩ := ih
      exact ⟨n + 1, rest, by rw [hc]; rfl, hrest⟩
    · exact ⟨0, c :: cs, rfl, by simpa using hc⟩

/-- **Removing three dots at a time shortens the runs of dots.** -/
theorem dropEllipses_eq_shortened (cs : List Char) : dropEllipses cs = shortened cs := by
  have hdots : ∀ {n rest}, rest.head? ≠ some '.' →
      shortened (List.replicate n '.' ++ rest) = List.replicate (n % 3) '.' ++ shortened rest :=
    fun h => by rw [shortened_append (.inr h), shortened_replicate]
  fun_induction dropEllipses cs with
  | case1 rest ih =>
    obtain ⟨n, rest, rfl, hrest⟩ := exists_run rest
    have hmore : '.' :: '.' :: '.' :: (List.replicate n '.' ++ rest) =
        List.replicate (n + 3) '.' ++ rest := rfl
    rw [ih, hmore, hdots hrest, hdots hrest, Nat.add_mod_right]
  | case2 c rest hno ih =>
    by_cases hc : c = '.'
    · -- fewer than two dots follow, and all of them stay
      obtain ⟨n, rest, rfl, hrest⟩ := exists_run rest
      have hn : n < 2 := by
        by_contra hge
        obtain ⟨m, rfl⟩ : ∃ m, n = m + 2 := ⟨n - 2, by omega⟩
        exact hno (List.replicate m '.' ++ rest) hc rfl
      have hmore : c :: (List.replicate n '.' ++ rest) = List.replicate (n + 1) '.' ++ rest := by
        rw [hc]
        rfl
      rw [ih, hmore, hdots hrest, hdots hrest, Nat.mod_eq_of_lt (by omega),
        Nat.mod_eq_of_lt (by omega), hc]
      rfl
    · have hone : c :: rest = [c] ++ rest := rfl
      rw [ih, hone, shortened_append (.inl (by simpa using hc)), shortened_singleton hc]
      rfl
  | case3 => rfl

theorem dropEllipses_of_not_ellipsis (h : ¬ellipsis <:+: cs) : dropEllipses cs = cs := by
  fun_induction dropEllipses cs with
  | case1 rest ih => exact absurd ⟨[], rest, rfl⟩ h
  | case2 c rest _ ih => rw [ih fun hinf => h (List.infix_cons hinf)]
  | case3 => rfl

theorem filter_dropEllipses {p : Char → Bool} (hp : p '.' = false) (cs : List Char) :
    (dropEllipses cs).filter p = cs.filter p := by
  fun_induction dropEllipses cs with
  | case1 rest ih => simp [hp, ih]
  | case2 c rest _ ih => rw [List.filter_cons, List.filter_cons, ih]
  | case3 => rfl

/-! ## Stripping -/

/-- What a text without its decorations is: nothing is left to remove, what is plain has stayed, the
runs of dots are shortened and the blanks are in order. -/
structure Cleaned (text result : List Char) : Prop where
  clean : occurs result = false
  settled : strip result = result
  plain : result.filter isPlain = text.filter isPlain
  /-- Once the decorated characters are gone, each maximal run of dots is left with the remainder of
  its length by three. -/
  dots : ∀ front n back, text.filter (!isSpecial ·) = front ++ List.replicate n '.' ++ back →
    front.getLast? ≠ some '.' → back.head? ≠ some '.' →
    words result = words (shortened front ++ List.replicate (n % 3) '.' ++ shortened back)
  tidy : Tidy result

theorem words_strip (text : List Char) :
    words (strip text) = words (shortened (text.filter (!isSpecial ·))) := by
  rw [strip, words_unwords fun w hw => Text.solid_of_mem_words hw, dropEllipses_eq_shortened]

/-- A tidy text without decorations stays as it is. -/
theorem strip_of_not_occurs (hwords : ∀ w ∈ ws, Solid w) (h : occurs (unwords ws) = false) :
    strip (unwords ws) = unwords ws := by
  have hnone : ¬(ellipsis <:+: unwords ws ∨ ∃ c ∈ unwords ws, isSpecial c = true) := by
    rw [← occurs_iff, h]
    simp
  obtain ⟨hdots, hspecial⟩ := not_or.1 hnone
  have hfilter : (unwords ws).filter (!isSpecial ·) = unwords ws := by
    refine List.filter_eq_self.2 fun c hc => ?_
    simpa using fun hs => hspecial ⟨c, hc, hs⟩
  rw [strip, hfilter, dropEllipses_of_not_ellipsis hdots, words_unwords hwords]

theorem strip_strip (text : List Char) : strip (strip text) = strip text :=
  strip_of_not_occurs (fun _ hw => Text.solid_of_mem_words hw) (not_occurs_strip text)

/-- What is plain stays, in its order. -/
theorem filter_isPlain_strip (text : List Char) :
    (strip text).filter isPlain = text.filter isPlain := by
  have hplain : ∀ {p : Char → Bool}, (∀ c, isPlain c = true → p c = true) → ∀ cs : List Char,
      (cs.filter p).filter isPlain = cs.filter isPlain := by
    intro p hp cs
    rw [List.filter_filter]
    refine List.filter_congr fun c _ => ?_
    cases hc : isPlain c with
    | false => rfl
    | true => rw [hp c hc]; rfl
  have hblank : ∀ c, isPlain c = true → (!isBlank c) = true := by
    intro c hc
    rw [(isPlain_iff.1 hc).1]
    rfl
  have hspecial : ∀ c, isPlain c = true → (!isSpecial c) = true := by
    intro c hc
    rw [(isPlain_iff.1 hc).2.2]
    rfl
  calc (strip text).filter isPlain
      = (words (dropEllipses (text.filter (!isSpecial ·)))).flatten.filter isPlain :=
        filter_unwords (by decide) _
    _ = (dropEllipses (text.filter (!isSpecial ·))).filter isPlain := by
        rw [Text.flatten_words, hplain hblank]
    _ = (text.filter (!isSpecial ·)).filter isPlain := filter_dropEllipses (by decide) _
    _ = text.filter isPlain := hplain hspecial text

/-- **Stripping cleans a text and changes nothing else.** -/
theorem strip_cleans (text : List Char) : Cleaned text (strip text) where
  clean := not_occurs_strip text
  settled := strip_strip text
  plain := filter_isPlain_strip text
  dots front n back htext hfront hback := by
    rw [words_strip, htext, shortened_run hfront hback]
  tidy := tidy_unwords fun _ hw => Text.solid_of_mem_words hw

/-- Dots that only a decoration separates are one run; dots with blanks between them are not. -/
example : strip " a.?...b \t . . ! . x...".toList = "a.b . . . x".toList := by decide

end Special

end LogStyle
