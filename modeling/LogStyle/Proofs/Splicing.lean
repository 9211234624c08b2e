import LogStyle.Proofs.Choice

/-!
# One simultaneous edit

Replacements are spliced into a text one after the other, while the text changes under them. What
comes out is the text with all accepted stretches replaced at once.

* `Text.splitBytes?_eq_some`: a text is cut where the bytes of its front end.
* `Edit.Covers`: a location covers whole characters of a text.
* `Edit.Edited`: the pieces of a text that are left, with new texts between them.
* `Edit.mem_accept_append`: a replacement is accepted if it covers whole characters and does not
  start before what is covered.
* `Edit.exists_edited`: splicing from the last to the first gives the simultaneous edit.
* `Edit.apply_oneEdit`: **replacements are made as one simultaneous edit, and every splice falls on
  character boundaries of the text of its moment.**
-/

namespace LogStyle

namespace Text

/-! ## Cutting a text at a byte -/

variable {n : Nat} {cs front back : List Char}

@[simp] theorem byteLength_nil : byteLength [] = 0 := rfl

@[simp] theorem byteLength_cons (c : Char) (cs : List Char) :
    byteLength (c :: cs) = c.utf8Size + byteLength cs := rfl

@[simp] theorem byteLength_append (a b : List Char) :
    byteLength (a ++ b) = byteLength a + byteLength b := by
  induction a with
  | nil => simp
  | cons c a ih =>
    rw [List.cons_append, byteLength_cons, byteLength_cons, ih, Nat.add_assoc]

theorem splitBytes?_append (front back : List Char) :
    splitBytes? (byteLength front) (front ++ back) = some (front, back) := by
  induction front with
  | nil => cases back <;> rfl
  | cons c front ih =>
    have hpos := c.utf8Size_pos
    obtain ⟨n, hn⟩ : ∃ n, byteLength (c :: front) = n + 1 :=
      ⟨byteLength (c :: front) - 1, by rw [byteLength_cons]; omega⟩
    have hrest : n + 1 - c.utf8Size = byteLength front := by
      rw [byteLength_cons] at hn
      omega
    have hsize : c.utf8Size ≤ n + 1 := by
      rw [byteLength_cons] at hn
      omega
    rw [hn, List.cons_append, splitBytes?, if_pos hsize, hrest, ih]
    rfl

/-- **A text is cut where the bytes of its front end.** -/
theorem splitBytes?_eq_some :
    splitBytes? n cs = some (front, back) ↔ cs = front ++ back ∧ byteLength front = n := by
  constructor
  · intro h
    induction cs generalizing n front with
    | nil =>
      cases n with
      | zero =>
        obtain ⟨rfl, rfl⟩ := Prod.mk.inj (Option.some.inj h)
        exact ⟨rfl, rfl⟩
      | succ n => cases h
    | cons c cs ih =>
      cases n with
      | zero =>
        rw [splitBytes?] at h
        obtain ⟨rfl, rfl⟩ := Prod.mk.inj (Option.some.inj h)
        exact ⟨rfl, rfl⟩
      | succ n =>
        rw [splitBytes?] at h
        simp only [Option.ite_none_right_eq_some, Option.map_eq_some_iff] at h
        obtain ⟨hsize, ⟨front', back'⟩, hrest, heq⟩ := h
        obtain ⟨rfl, rfl⟩ := Prod.mk.inj heq
        obtain ⟨rfl, hlength⟩ := ih hrest
        refine ⟨rfl, ?_⟩
        rw [byteLength_cons, hlength]
        omega
  · rintro ⟨rfl, rfl⟩
    exact splitBytes?_append front back

/-- Of two fronts of a text the one with fewer bytes is a front of the other. -/
theorem exists_gap {a b a' b' : List Char} (h : a ++ b = a' ++ b')
    (hle : byteLength a ≤ byteLength a') : ∃ gap, a' = a ++ gap ∧ b = gap ++ b' := by
  rcases List.append_eq_append_iff.1 h with ⟨gap, ha, hb⟩ | ⟨gap, ha, hb⟩
  · exact ⟨gap, ha, hb⟩
  · -- the longer front has no more bytes, so that nothing lies between them
    have hnil : gap = [] := by
      cases gap with
      | nil => rfl
      | cons c gap =>
        have hpos := c.utf8Size_pos
        rw [ha, byteLength_append, byteLength_cons] at hle
        omega
    subst hnil
    exact ⟨[], by simpa using ha.symm, by simpa using hb.symm⟩

end Text

namespace Edit

open Text (byteLength)

variable {source text front old back : List Char} {covered : Nat} {l : Location}
  {row : List (Replacement × Nat)} {a b : Replacement × Nat} {rs : List Replacement}

/-! ## Stretches of a text -/

/-- A location covers whole characters of a text. -/
structure Covers (l : Location) (text front old back : List Char) : Prop where
  text : text = front ++ old ++ back
  offset : byteLength front = l.offset
  length : byteLength old = l.length

theorem Covers.stop (h : Covers l text front old back) : byteLength (front ++ old) = stop l := by
  rw [Text.byteLength_append, h.offset, h.length, Edit.stop]

theorem fits_iff : fits source l = true ↔ ∃ front old back, Covers l source front old back := by
  have hle : l.offset ≤ stop l := by
    unfold stop
    omega
  have hlength : stop l - l.offset = l.length := by
    unfold stop
    omega
  rw [fits, Option.isSome_iff_exists, Text.slice?, if_pos hle]
  simp only [Option.bind_eq_bind, Option.bind_eq_some_iff, Prod.exists, Text.splitBytes?_eq_some,
    hlength, Option.some.injEq]
  constructor
  · rintro ⟨old, front, rest, ⟨rfl, hfront⟩, old', back, ⟨rfl, hold⟩, rfl⟩
    exact ⟨front, old', back, by rw [List.append_assoc], hfront, hold⟩
  · rintro ⟨front, old, back, rfl, hfront, hold⟩
    have htext : front ++ old ++ back = front ++ (old ++ back) := List.append_assoc ..
    exact ⟨old, front, old ++ back, ⟨htext, hfront⟩, old, back, ⟨rfl, hold⟩, rfl⟩

/-- A stretch that falls on character boundaries is replaced. -/
theorem splice_of_covers {r : Replacement} (h : Covers r.location text front old back) :
    splice text r = front ++ r.newText.toList ++ back := by
  have hstart : Text.splitBytes? r.location.offset text = some (front, old ++ back) :=
    Text.splitBytes?_eq_some.2 ⟨by rw [h.text, List.append_assoc], h.offset⟩
  have hstop : Text.splitBytes? (stop r.location) text = some (front ++ old, back) :=
    Text.splitBytes?_eq_some.2 ⟨h.text, h.stop⟩
  rw [splice, hstart, hstop]

/-! ## The simultaneous edit -/

/-- Replacements are made at once in the rest of a text, which starts at a byte: what is left of the
text is kept piece by piece, and the new texts stand between the pieces. -/
inductive Edited : Nat → List Char → List Replacement → List Char → Prop where
  | nil (start : Nat) (rest : List Char) : Edited start rest [] rest
  | cons {start : Nat} {gap old rest out : List Char} {r : Replacement} {rs : List Replacement}
      (offset : start + byteLength gap = r.location.offset)
      (length : byteLength old = r.location.length) (later : Edited (stop r.location) rest rs out) :
      Edited start (gap ++ old ++ rest) (r :: rs) (gap ++ r.newText.toList ++ out)

/-- The text after some replacements are spliced in, from the last to the first. -/
def spliced (source : List Char) (row : List (Replacement × Nat)) : List Char :=
  row.foldr (fun a text => splice text a.1) source

/-- **Splicing from the last to the first gives the simultaneous edit.** What lies before the
covered byte is left alone. -/
theorem exists_edited (row : List (Replacement × Nat)) {rest : List Char}
    (hsource : source = front ++ rest) (hcovered : byteLength front = covered) :
    ∃ out, spliced source (accept source covered row) = front ++ out ∧
      Edited covered rest ((accept source covered row).map (·.1)) out := by
  induction row generalizing covered front rest with
  | nil => exact ⟨rest, hsource, .nil covered rest⟩
  | cons x row ih =>
    obtain ⟨r, index⟩ := x
    unfold accept
    split
    · rename_i hx
      simp only [Bool.and_eq_true, decide_eq_true_eq] at hx
      obtain ⟨front', old, back, hcovers⟩ := fits_iff.1 hx.1
      -- the accepted stretch lies behind what is covered, after a gap that is kept
      obtain ⟨gap, rfl, hrest⟩ : ∃ gap, front' = front ++ gap ∧ rest = gap ++ (old ++ back) := by
        apply Text.exists_gap
        · rw [← hsource, hcovers.text, List.append_assoc]
        · rw [hcovered, hcovers.offset]
          exact hx.2
      obtain ⟨out, hout, hedited⟩ := ih hcovers.text hcovers.stop
      -- the later splices have not touched the stretch
      have hnow : Covers r.location (spliced source (accept source (stop r.location) row))
          (front ++ gap) old out := ⟨hout, hcovers.offset, hcovers.length⟩
      have hgap : covered + byteLength gap = r.location.offset := by
        rw [← hcovers.offset, Text.byteLength_append, hcovered]
      refine ⟨gap ++ r.newText.toList ++ out, ?_, ?_⟩
      · change splice (spliced source (accept source (stop r.location) row)) r = _
        rw [splice_of_covers hnow]
        simp only [List.append_assoc]
      · rw [hrest, ← List.append_assoc]
        exact .cons hgap hcovers.length hedited
    · exact ih hsource hcovered

/-! ## What is accepted -/

/-- The byte up to which a text is covered when some replacements are accepted. -/
def coveredBy (covered : Nat) (accepted : List (Replacement × Nat)) : Nat :=
  (accepted.getLast?.map fun a => stop a.1.location).getD covered

theorem coveredBy_zero_le {accepted : List (Replacement × Nat)} {start : Nat} :
    coveredBy 0 accepted ≤ start ↔ ∀ last ∈ accepted.getLast?, stop last.1.location ≤ start := by
  unfold coveredBy
  cases accepted.getLast? <;> simp

theorem accept_append (row later : List (Replacement × Nat)) :
    accept source covered (row ++ later) = accept source covered row ++
      accept source (coveredBy covered (accept source covered row)) later := by
  induction row generalizing covered with
  | nil => rfl
  | cons x row ih =>
    obtain ⟨r, index⟩ := x
    rw [List.cons_append, accept, accept]
    split
    · have hlast : coveredBy covered ((r, index) :: accept source (stop r.location) row) =
          coveredBy (stop r.location) (accept source (stop r.location) row) := by
        rw [coveredBy, coveredBy, List.getLast?_cons]
        cases (accept source (stop r.location) row).getLast? <;> rfl
      rw [ih, hlast, List.cons_append]
    · exact ih

/-- What is accepted after a replacement is accepted behind its end. -/
theorem of_accept_eq_append {before after : List (Replacement × Nat)}
    (h : accept source covered row = before ++ a :: after) :
    fits source a.1.location = true ∧ ∃ later, after = accept source (stop a.1.location) later := by
  induction row generalizing covered before with
  | nil => simp [accept] at h
  | cons x row ih =>
    obtain ⟨r, index⟩ := x
    unfold accept at h
    split at h
    · rename_i hx
      cases before with
      | nil =>
        obtain ⟨rfl, rfl⟩ := List.cons.inj h
        simp only [Bool.and_eq_true] at hx
        exact ⟨hx.1, row, rfl⟩
      | cons y before => exact ih (List.cons.inj h).2
    · exact ih h

/-- What is accepted lies in a row, each behind the one before. -/
theorem pairwise_accept :
    (accept source covered row).Pairwise fun a b => stop a.1.location ≤ b.1.location.offset := by
  induction row generalizing covered with
  | nil => exact .nil
  | cons x row ih =>
    unfold accept
    split
    · exact .cons (fun b hb => le_of_mem_accept hb) ih
    · exact ih

/-- A replacement in a row of different ones is accepted if it covers whole characters and does not
start before what is covered. -/
theorem mem_accept_append {before after : List (Replacement × Nat)} (hbefore : a ∉ before)
    (hafter : a ∉ after) : a ∈ accept source covered (before ++ a :: after) ↔
      fits source a.1.location = true ∧
        coveredBy covered (accept source covered before) ≤ a.1.location.offset := by
  have hnot : ∀ {start row}, a ∉ row → a ∉ accept source start row :=
    fun h hmem => h (accept_sublist.subset hmem)
  rw [accept_append, List.mem_append, or_iff_right (hnot hbefore), accept]
  split
  · rename_i h
    simpa using h
  · rename_i h
    simp only [hnot hafter, false_iff]
    simpa using h

/-- A part of a list without repetitions is what the list has of it. -/
theorem filter_mem_of_sublist {part : List (Replacement × Nat)} (h : part.Sublist row)
    (hnodup : row.Nodup) : row.filter (· ∈ part) = part := by
  induction h with
  | slnil => rfl
  | cons x h ih =>
    obtain ⟨hx, hrest⟩ := List.nodup_cons.1 hnodup
    rw [List.filter_cons_of_neg (by simpa using fun hmem => hx (h.subset hmem)), ih hrest]
  | @cons_cons part row x h ih =>
    obtain ⟨hx, hrest⟩ := List.nodup_cons.1 hnodup
    have hsame : row.filter (· ∈ x :: part) = row.filter (· ∈ part) := by
      refine List.filter_congr fun y hy => ?_
      have hne : y ≠ x := fun heq => hx (heq ▸ hy)
      simp [hne]
    rw [List.filter_cons_of_pos (by simp), hsame, ih hrest]

/-- The accepted ones of the first part of a row are those that are accepted of this part. -/
theorem filter_mem_accept {later : List (Replacement × Nat)} (hnodup : (row ++ later).Nodup) :
    row.filter (· ∈ accept source covered (row ++ later)) = accept source covered row := by
  obtain ⟨hrow, -, hapart⟩ := List.nodup_append.1 hnodup
  have hsame : row.filter (· ∈ accept source covered (row ++ later)) =
      row.filter (· ∈ accept source covered row) := by
    refine List.filter_congr fun x hx => ?_
    have hlater : ∀ start, x ∉ accept source start later :=
      fun start hmem => hapart x hx x (accept_sublist.subset hmem) rfl
    rw [accept_append]
    simp [hlater]
  rw [hsame, filter_mem_of_sublist accept_sublist hrow]

/-! ## The order of replacements -/

/-- One replacement comes before another: it starts earlier, or it was given earlier for the same
start. -/
def Precedes (a b : Replacement × Nat) : Prop :=
  a.1.location.offset < b.1.location.offset ∨
    a.1.location.offset = b.1.location.offset ∧ a.2 < b.2

theorem Precedes.ne (h : Precedes a b) : a ≠ b := by
  rintro rfl
  unfold Precedes at h
  omega

theorem pairwise_zipIdx {α : Type} (l : List α) : l.zipIdx.Pairwise fun a b => a.2 < b.2 := by
  have hrange : (l.zipIdx.map (·.2)).Pairwise (· < ·) := by
    rw [List.zipIdx_map_snd]
    exact List.pairwise_lt_range'
  exact List.pairwise_map.1 hrange

/-- Replacements are put in order by their start, and those with one start stay as they were. -/
theorem pairwise_precedes (rs : List Replacement) : (inOrder rs).Pairwise Precedes := by
  rw [List.pairwise_iff_forall_sublist]
  intro a b hab
  have hle : a.1.location.offset ≤ b.1.location.offset :=
    List.pairwise_iff_forall_sublist.1 pairwise_inOrder hab
  rcases Nat.lt_or_eq_of_le hle with hlt | heq
  · exact .inl hlt
  · -- among those with one start the order is that of the given list
    have hclass : (inOrder rs).filter (fun x => x.1.location.offset = a.1.location.offset) =
        rs.zipIdx.filter fun x => x.1.location.offset = a.1.location.offset := by
      refine filter_mergeSort le_offset_trans le_offset_total (fun x y hx hy => ?_) _
      simp only [decide_eq_true_eq] at hx hy ⊢
      omega
    have hgiven : [a, b].Sublist rs.zipIdx := by
      have hfilter := hab.filter fun x => x.1.location.offset = a.1.location.offset
      rw [hclass] at hfilter
      refine .trans ?_ (hfilter.trans List.filter_sublist)
      simp [heq]
    exact .inr ⟨heq, List.pairwise_iff_forall_sublist.1 (pairwise_zipIdx rs) hgiven⟩

/-- The indices of replacements are sorted without repetitions. -/
theorem pairwise_applied (source : String) (rs : List Replacement) :
    (apply source rs).applied.Pairwise (· < ·) := by
  have hsorted : (apply source rs).applied.Pairwise (· ≤ ·) := by
    have htrans : ∀ a b c : Nat, decide (a ≤ b) = true → decide (b ≤ c) = true →
        decide (a ≤ c) = true := by
      simp only [decide_eq_true_eq]
      exact fun a b c => Nat.le_trans
    have htotal : ∀ a b : Nat, (decide (a ≤ b) || decide (b ≤ a)) = true := by
      simp only [Bool.or_eq_true, decide_eq_true_eq]
      exact Nat.le_total
    exact (List.pairwise_mergeSort htrans htotal _).imp of_decide_eq_true
  have hperm : (inOrder rs).Perm rs.zipIdx := List.mergeSort_perm _ _
  have hindices : ((inOrder rs).map (·.2)).Nodup := by
    rw [(hperm.map (·.2)).nodup_iff]
    exact List.pairwise_map.2 ((pairwise_zipIdx rs).imp Nat.ne_of_lt)
  have hnodup : (apply source rs).applied.Nodup :=
    (List.mergeSort_perm _ _).nodup_iff.2 (hindices.sublist (accept_sublist.map _))
  exact hsorted.imp₂ (fun _ _ hle hne => Nat.lt_of_le_of_ne hle hne) hnodup

/-! ## Replacements made at once -/

/-- An outcome is that of one simultaneous edit, with the replacements in their order and those that
are accepted. -/
structure OneEdit (source : List Char) (rs : List Replacement) (outcome : Outcome)
    (ordered accepted : List (Replacement × Nat)) : Prop where
  perm : ordered.Perm rs.zipIdx
  stable : ordered.Pairwise Precedes
  sublist : accepted.Sublist ordered
  /-- A replacement is accepted if it covers whole characters of the text and does not start before
  the end of the last accepted one. -/
  accepted_iff : ∀ before a after, ordered = before ++ a :: after →
    (a ∈ accepted ↔ (∃ front old back, Covers a.1.location source front old back) ∧
      ∀ last ∈ (before.filter (· ∈ accepted)).getLast?, stop last.1.location ≤ a.1.location.offset)
  apart : accepted.Pairwise fun a b => stop a.1.location ≤ b.1.location.offset
  edited : Edited 0 source (accepted.map (·.1)) outcome.text.toList
  increasing : outcome.applied.Pairwise (· < ·)
  mem_applied : ∀ k, k ∈ outcome.applied ↔ ∃ r, (r, k) ∈ accepted
  spliced : outcome.text.toList = Edit.spliced source accepted
  /-- Each splice falls on character boundaries of the text that the later ones have left. -/
  boundaries : ∀ before a after, accepted = before ++ a :: after →
    ∃ front old back, Covers a.1.location (Edit.spliced source after) front old back

/-- **Replacements are made as one simultaneous edit.** They may be empty, touch each other or
insert several texts at one byte. -/
theorem apply_oneEdit (source : String) (rs : List Replacement) :
    ∃ ordered accepted, OneEdit source.toList rs (apply source rs) ordered accepted := by
  have hnodup : (inOrder rs).Nodup := (pairwise_precedes rs).imp Precedes.ne
  have htext : (apply source rs).text.toList =
      spliced source.toList (accept source.toList 0 (inOrder rs)) := String.toList_ofList
  refine ⟨inOrder rs, accept source.toList 0 (inOrder rs), ?_⟩
  refine ⟨List.mergeSort_perm _ _, pairwise_precedes rs, accept_sublist, ?_, pairwise_accept,
    ?_, ?_, ?_, htext, ?_⟩
  · intro before a after horder
    rw [horder] at hnodup ⊢
    obtain ⟨-, hafter, hapart⟩ := List.nodup_append.1 hnodup
    have hbefore : a ∉ before := fun hmem => hapart a hmem a List.mem_cons_self rfl
    rw [mem_accept_append hbefore (List.nodup_cons.1 hafter).1, fits_iff, filter_mem_accept hnodup,
      coveredBy_zero_le]
  · obtain ⟨out, hout, hedited⟩ := exists_edited (inOrder rs)
      (List.nil_append source.toList).symm Text.byteLength_nil
    rw [htext, hout]
    exact hedited
  · exact pairwise_applied source rs
  · simp [apply]
  · intro before a after haccept
    obtain ⟨hfits, later, rfl⟩ := of_accept_eq_append haccept
    obtain ⟨front, old, back, hcovers⟩ := fits_iff.1 hfits
    obtain ⟨out, hout, -⟩ := exists_edited later hcovers.text hcovers.stop
    exact ⟨front, old, out, hout, hcovers.offset, hcovers.length⟩

/-- Two texts are inserted at one byte, the end of a stretch that is replaced. -/
example :
    apply "añb" [⟨⟨"a", 1, 1, 3, 0⟩, "x"⟩, ⟨⟨"a", 1, 1, 1, 2⟩, "n"⟩, ⟨⟨"a", 1, 1, 3, 0⟩, "y"⟩,
      ⟨⟨"a", 1, 1, 2, 1⟩, "z"⟩] = ⟨"anxyb", [0, 1, 2]⟩ := by
  cbv

end Edit

end LogStyle
