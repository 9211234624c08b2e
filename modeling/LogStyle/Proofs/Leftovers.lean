import LogStyle.Command.Fixes

/-!
# What is left when files are fixed

The replacements of a file are accepted one by one, and a violation is fixed if its own replacement
is. What is left are the violations that are not fixed.

* `Edit.eq_of_mem_accept`: of several replacements for one stretch at most one is accepted.
* `Fixes.isFixed_iff`: a violation is fixed if its replacement is accepted in some file.
* `Fixes.FixedIn.unique`: **of the violations of one stretch at most one is fixed.**
* `Fixes.isFixed_of_left`: if nothing is left from a threshold on, all such violations are fixed.
-/

namespace LogStyle

namespace Edit

variable {source : List Char} {covered : Nat} {l : List (Replacement × Nat)}
  {a b : Replacement × Nat}

theorem accept_sublist : (accept source covered l).Sublist l := by
  induction l generalizing covered with
  | nil => exact .refl _
  | cons x l ih =>
    unfold accept
    split
    · exact ih.cons_cons x
    · exact ih.cons x

theorem le_of_mem_accept (h : a ∈ accept source covered l) : covered ≤ a.1.location.offset := by
  induction l generalizing covered with
  | nil => cases h
  | cons x l ih =>
    unfold accept at h
    split at h
    · rename_i hx
      simp only [Bool.and_eq_true, decide_eq_true_eq] at hx
      rcases List.mem_cons.1 h with rfl | h
      · exact hx.2
      · have := ih h
        unfold stop at this
        omega
    · exact ih h

/-- **Of several replacements for one stretch at most one is accepted.** -/
theorem eq_of_mem_accept (ha : a ∈ accept source covered l) (hb : b ∈ accept source covered l)
    (hl : a.1.location = b.1.location) (hpos : 0 < a.1.location.length) : a = b := by
  induction l generalizing covered with
  | nil => cases ha
  | cons x l ih =>
    obtain ⟨r, index⟩ := x
    unfold accept at ha hb
    split at ha
    · rename_i hx
      rw [if_pos hx] at hb
      -- what is accepted later starts behind the first one
      have hlater : ∀ {c}, c ∈ accept source (stop r.location) l → c.1.location = r.location →
          r.location.length = 0 := by
        intro c hc hcr
        have := le_of_mem_accept hc
        rw [hcr] at this
        unfold stop at this
        omega
      rcases List.mem_cons.1 ha with rfl | ha <;> rcases List.mem_cons.1 hb with rfl | hb
      · rfl
      · exact absurd (hlater hb hl.symm) (Nat.ne_of_gt hpos)
      · exact absurd (hlater ha hl) (Nat.ne_of_gt (hl ▸ hpos))
      · exact ih ha hb
    · rename_i hx
      rw [if_neg hx] at hb
      exact ih ha hb

theorem mem_inOrder {replacements : List Replacement} :
    a ∈ inOrder replacements ↔ replacements[a.2]? = some a.1 := by
  obtain ⟨r, k⟩ := a
  rw [inOrder, List.mem_mergeSort, List.mem_zipIdx_iff_getElem?]

end Edit

namespace FileFix

theorem mem_replacements {violations : List Violation} {display : String} {r : Replacement}
    {i : Nat} : (r, i) ∈ replacements violations display ↔
      ∃ v, violations[i]? = some v ∧ Path.same v.location.file display = true ∧
        v.replacement? = some r := by
  simp only [replacements, List.mem_filterMap, Prod.exists, List.mem_zipIdx_iff_getElem?,
    Option.ite_none_right_eq_some, Option.map_eq_some_iff, Prod.mk.injEq]
  constructor
  · rintro ⟨v, j, hv, hsame, r', hr, rfl, rfl⟩
    exact ⟨v, hv, hsame, hr⟩
  · rintro ⟨v, hv, hsame, hr⟩
    exact ⟨v, i, hv, hsame, r, hr, rfl, rfl⟩

end FileFix

namespace Fixes

/-- The replacements that are accepted in a file, each with its place among those for the file. -/
def accepted (violations : List Violation) (file : SourceFile) : List (Replacement × Nat) :=
  Edit.accept file.text.toList 0
    (Edit.inOrder ((FileFix.replacements violations file.display).map (·.1)))

/-- The replacements that are made in a file. -/
def made (violations : List Violation) (file : SourceFile) : List Replacement :=
  (accepted violations file).map (·.1)

variable {analysis : Analysis} {violations : List Violation} {file : SourceFile} {r : Replacement}
  {v w : Violation} {i j k : Nat}

theorem getElem?_of_mem_accepted (h : (r, k) ∈ accepted violations file) :
    ∃ i, (FileFix.replacements violations file.display)[k]? = some (r, i) := by
  have := Edit.mem_inOrder.1 (Edit.accept_sublist.subset h)
  rw [List.getElem?_map, Option.map_eq_some_iff] at this
  obtain ⟨⟨r', i⟩, hi, rfl⟩ := this
  exact ⟨i, hi⟩

/-- The violation at a place in the report is fixed in a file. -/
def FixedIn (violations : List Violation) (file : SourceFile) (i : Nat) : Prop :=
  ∃ r k, (r, k) ∈ accepted violations file ∧
    (FileFix.replacements violations file.display)[k]? = some (r, i)

theorem exists_mem_accepted : (∃ r, (r, k) ∈ accepted violations file) ↔
    k ∈ (Edit.apply file.text
      ((FileFix.replacements violations file.display).map (·.1))).applied := by
  simp [Edit.apply, accepted]

theorem isFixed_iff : isFixed (plan analysis) i = true ↔
    ∃ file ∈ analysis.files, FixedIn analysis.result.violations file i := by
  simp only [isFixed, plan, List.any_eq_true, List.mem_filterMap, List.contains_iff_mem]
  constructor
  · rintro ⟨fix, ⟨file, hfile, hfix⟩, hi⟩
    unfold FileFix.of? at hfix
    simp only [Option.ite_none_left_eq_some, Option.some.injEq] at hfix
    obtain ⟨-, rfl⟩ := hfix
    obtain ⟨k, hk, hki⟩ := List.mem_filterMap.1 hi
    obtain ⟨r, hr⟩ := exists_mem_accepted.2 hk
    obtain ⟨i', hi'⟩ := getElem?_of_mem_accepted hr
    simp only [List.getElem?_map, hi', Option.map_some, Option.some.injEq] at hki
    exact ⟨file, hfile, r, k, hr, hki ▸ hi'⟩
  · rintro ⟨file, hfile, r, k, hr, hk⟩
    have hmem := exists_mem_accepted.1 ⟨r, hr⟩
    let fix : FileFix := ⟨file, Edit.apply file.text ((FileFix.replacements
      analysis.result.violations file.display).map (·.1)),
      (FileFix.replacements analysis.result.violations file.display).map (·.2)⟩
    have hfix : FileFix.of? analysis.result.violations file = some fix := by
      simp only [FileFix.of?, Option.ite_none_left_eq_some]
      exact ⟨fun he => List.ne_nil_of_mem hmem (List.isEmpty_iff.1 he), rfl⟩
    refine ⟨fix, ⟨file, hfile, hfix⟩, List.mem_filterMap.2 ⟨k, hmem, ?_⟩⟩
    simp [fix, hk]

/-- A violation that is fixed in a file is one of the file, and its replacement is made. -/
theorem FixedIn.made (h : FixedIn violations file i) :
    ∃ v r, violations[i]? = some v ∧ Path.same v.location.file file.display = true ∧
      v.replacement? = some r ∧ r ∈ Fixes.made violations file := by
  obtain ⟨r, k, hr, hk⟩ := h
  obtain ⟨v, hv, hsame, hrep⟩ := FileFix.mem_replacements.1 (List.mem_of_getElem? hk)
  exact ⟨v, r, hv, hsame, hrep, List.mem_map_of_mem hr⟩

theorem exists_fixedIn (h : r ∈ made violations file) :
    ∃ i v, FixedIn violations file i ∧ violations[i]? = some v ∧
      Path.same v.location.file file.display = true ∧ v.replacement? = some r := by
  obtain ⟨⟨r, k⟩, hr, rfl⟩ := List.mem_map.1 h
  obtain ⟨i, hi⟩ := getElem?_of_mem_accepted hr
  obtain ⟨v, hv, hsame, hrep⟩ := FileFix.mem_replacements.1 (List.mem_of_getElem? hi)
  exact ⟨i, v, ⟨r, k, hr, hi⟩, hv, hsame, hrep⟩

theorem eq_of_mem_made {s : Replacement} (hr : r ∈ made violations file)
    (hs : s ∈ made violations file) (hl : r.location = s.location) (hpos : 0 < r.location.length) :
    r = s := by
  obtain ⟨a, ha, rfl⟩ := List.mem_map.1 hr
  obtain ⟨b, hb, rfl⟩ := List.mem_map.1 hs
  rw [Edit.eq_of_mem_accept ha hb hl hpos]

/-- **Of the violations of one stretch at most one is fixed.** -/
theorem FixedIn.unique {s : Replacement} (hi : FixedIn violations file i)
    (hj : FixedIn violations file j) (hv : violations[i]? = some v) (hw : violations[j]? = some w)
    (hr : v.replacement? = some r) (hs : w.replacement? = some s) (hl : r.location = s.location)
    (hpos : 0 < r.location.length) : i = j := by
  obtain ⟨r', k, hk, hki⟩ := hi
  obtain ⟨s', l, hl', hlj⟩ := hj
  obtain ⟨v', hv', -, hr'⟩ := FileFix.mem_replacements.1 (List.mem_of_getElem? hki)
  obtain ⟨w', hw', -, hs'⟩ := FileFix.mem_replacements.1 (List.mem_of_getElem? hlj)
  obtain rfl := Option.some.inj (hv.symm.trans hv')
  obtain rfl := Option.some.inj (hw.symm.trans hw')
  obtain rfl := Option.some.inj (hr.symm.trans hr')
  obtain rfl := Option.some.inj (hs.symm.trans hs')
  have hkl := Edit.eq_of_mem_accept hk hl' hl hpos
  obtain ⟨-, rfl⟩ := Prod.mk.inj hkl
  exact (Prod.mk.inj (Option.some.inj (hki.symm.trans hlj))).2

/-- If nothing is left from a threshold on, all such violations are fixed. -/
theorem isFixed_of_left {threshold : Severity} (h : left analysis (plan analysis) threshold = 0)
    (hv : analysis.result.violations[i]? = some v) (ht : v.severity.reaches threshold = true) :
    isFixed (plan analysis) i = true := by
  have hmem : (v, i) ∈ analysis.result.violations.zipIdx := List.mem_zipIdx_iff_getElem?.2 hv
  have hno := List.countP_eq_zero.1 h _ hmem
  simpa [ht] using hno

end Fixes

end LogStyle
