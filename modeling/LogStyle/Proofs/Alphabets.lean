import LogStyle.Proofs.Redaction
import LogStyle.Proofs.Stripping
import LogStyle.Text.Alphabet

/-!
# Corrections and other alphabets

No correction touches a letter outside the Latin alphabet: such a letter is no capital of the basic
alphabet, no decoration, dot or blank, and no form of a letter of a sensitive word.

* `CodeSet.exists_range`: a character of a set lies in one of its ranges.
* `CodeSet.out_of_apart`: it lies in no range of a table that is apart.
* `Special.isPlain_of_isForeignLetter`: letters of other alphabets are plain.
* `Lowercase.filter_lowered`, `Special.filter_strip`, `Sensitive.filter_redact`: **the letters of
  other alphabets stay**, all of them and in their order.
-/

namespace LogStyle

open Text (isForeignLetter)

/-- A character of a set lies in one of its ranges. -/
theorem CodeSet.exists_range {s : CodeSet} {c : Char} (h : s.mem c = true) :
    ∃ r ∈ s.ranges, r.1 ≤ c.toNat ∧ c.toNat ≤ r.2 := by
  by_contra hnone
  have hout : ∀ r ∈ s.ranges, c.toNat < r.1 ∨ r.2 < c.toNat := by
    intro r hr
    by_contra hin
    exact hnone ⟨r, hr, by omega⟩
  rw [mem, contains, within_eq_false hout] at h
  cases h

namespace CodeSet

/-- Whether no range of a list meets a range of another one. -/
def apart (rs ts : List (Nat × Nat)) : Bool := rs.all fun r => ts.all fun t => r.2 < t.1 || t.2 < r.1

theorem out_of_apart {rs ts : List (Nat × Nat)} {n : Nat} (h : apart rs ts = true)
    (hr : ∃ r ∈ rs, r.1 ≤ n ∧ n ≤ r.2) : ∀ t ∈ ts, n < t.1 ∨ t.2 < n := by
  obtain ⟨r, hr, hlo, hhi⟩ := hr
  intro t ht
  have hrt := List.all_eq_true.1 (List.all_eq_true.1 h r hr) t ht
  rw [Bool.or_eq_true, decide_eq_true_eq, decide_eq_true_eq] at hrt
  omega

end CodeSet

/-! ## Style -/

namespace Special

/-- The characters that the removal of decorations may touch. -/
def touched : List (Nat × Nat) :=
  Text.blankSet.ranges ++ [(0x21, 0x21), (0x2e, 0x2e), (0x3f, 0x3f), (0x2026, 0x2026),
    (0x2600, 0x27bf), (0xfe0f, 0xfe0f), (0x1f300, 0x1faff)]

/-- **Letters of other alphabets are plain.** -/
theorem isPlain_of_isForeignLetter {c : Char} (h : isForeignLetter c = true) : isPlain c = true := by
  have hapart : CodeSet.apart Text.foreignLetterSet.ranges touched = true := by decide +kernel
  have hout := CodeSet.out_of_apart hapart (CodeSet.exists_range h)
  have hne : ∀ d : Char, (d.toNat, d.toNat) ∈ touched → c ≠ d := by
    rintro d hd rfl
    exact (hout _ hd).elim (Nat.lt_irrefl _) (Nat.lt_irrefl _)
  have hblank : Text.isBlank c = false :=
    CodeSet.within_eq_false fun t ht => hout t (List.mem_append_left _ ht)
  have hmark : isMark c = false := by
    simp [isMark, hne '!' (by decide), hne '?' (by decide), hne '\u2026' (by decide)]
  have hemoji : isEmoji c = false := by
    have hpictures := hout (0x1f300, 0x1faff) (by decide)
    have hsymbols := hout (0x2600, 0x27bf) (by decide)
    have hselector := hout (0xfe0f, 0xfe0f) (by decide)
    simp only [isEmoji, Bool.or_eq_false_iff, Bool.and_eq_false_iff, decide_eq_false_iff_not]
    omega
  exact isPlain_iff.2 ⟨hblank, hne '.' (by decide), by rw [isSpecial, hmark, hemoji]; rfl⟩

theorem filter_strip (text : List Char) :
    (strip text).filter isForeignLetter = text.filter isForeignLetter := by
  have hplain : ∀ cs : List Char,
      cs.filter isForeignLetter = (cs.filter isPlain).filter isForeignLetter := by
    intro cs
    rw [List.filter_filter]
    refine List.filter_congr fun c _ => ?_
    cases hc : isForeignLetter c with
    | false => rfl
    | true => rw [isPlain_of_isForeignLetter hc]; rfl
  rw [hplain, filter_isPlain_strip, ← hplain]

end Special

theorem Lowercase.filter_lowered {cs out : List Char} (h : lowered? cs = some out) :
    out.filter isForeignLetter = cs.filter isForeignLetter := by
  obtain ⟨front, c, back, hc, rfl, rfl, -⟩ := lowered?_eq_some h
  have hboth := of_isUpper
    (P := fun c => !isForeignLetter c && !isForeignLetter c.toLower) (by decide +kernel) hc
  simp only [Bool.and_eq_true, Bool.not_eq_true'] at hboth
  rw [List.filter_append, List.filter_append, List.filter_cons_of_neg (by simp [hboth.2]),
    List.filter_cons_of_neg (by simp [hboth.1])]

/-! ## Sensitive words -/

namespace Sensitive

open LogStyle.Pattern (Piece)

theorem Redacts.filter {ps : List Piece} (hps : ps ∈ keywords) {before : Option Char}
    {text out : List Char} (h : Redacts ps before text out) :
    out.filter isForeignLetter = text.filter isForeignLetter := by
  have hforms : (keywords.all fun ps => ps.all (allOf (!isForeignLetter ·))) = true := by
    decide +kernel
  have htoken : redacted.toList.filter isForeignLetter = [] := by decide +kernel
  induction h with
  | nil => rfl
  | keep _ _ ih => rw [List.filter_cons, List.filter_cons, ih]
  | @cut before w rest out hs _ ih =>
    have hword : w.filter isForeignLetter = [] := by
      refine List.filter_eq_nil_iff.2 fun c hc => ?_
      simpa using spells_allOf (List.all_eq_true.1 hforms ps hps) hs.spells c hc
    rw [List.filter_append, List.filter_append, htoken, hword, ih]

theorem filter_redact (text : List Char) :
    (redact builtinPatterns text).filter isForeignLetter = text.filter isForeignLetter :=
  redact_preserves (P := fun t => t.filter isForeignLetter = text.filter isForeignLetter)
    (fun _ hps _ _ hr ht => (hr.filter hps).trans ht) rfl

end Sensitive

end LogStyle
