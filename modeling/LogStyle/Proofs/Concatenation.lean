import LogStyle.Message
import Mathlib.Data.List.Nodup

/-!
# The text that a message stands for

A message joins literals with parts whose texts are not known. Whatever these texts are, the message
says the fragments of its literals in their order, with the other texts between them. How the joins
are grouped plays no part in this.

* `Expr.leaves`: the parts that an expression joins, each with the way to it.
* `Expr.spelled`: the text of an expression, given the texts of the parts that have none of their own.
* `Interleaved`: a list that is made of two others, each in its order.
* `Expr.Regrouped`: expressions that differ in how joins are grouped, and in parentheses.
* `Message.fragments_spelled`: **a message says its fragments, interleaved with the texts of its other
  parts, and regrouping changes neither its fragments nor whether it may be replaced.**
-/

namespace LogStyle

/-- The sides of a join. -/
inductive Side where
  | left
  | right
  deriving DecidableEq, Repr

/-- The way from an expression to a part that it joins. Parentheses are no step. -/
abbrev Way := List Side

namespace Expr

/-- The parts that an expression joins, from left to right, each with the way to it. Whatever is no
join and no parenthesis is a part. -/
def leaves : Expr → List (Way × Expr)
  | binary _ _ .add left right =>
    left.leaves.map (fun leaf => (.left :: leaf.1, leaf.2)) ++
      right.leaves.map (fun leaf => (.right :: leaf.1, leaf.2))
  | paren _ _ inner => inner.leaves
  | e => [([], e)]

/-- The text of a literal that has a value. -/
def ownText? : Expr → Option String
  | literal _ _ raw => Literal.value? raw
  | _ => none

/-- The ways to the parts without a text of their own, from left to right. -/
def gaps (e : Expr) : List Way := (e.leaves.filter (·.2.ownText?.isNone)).map (·.1)

/-- The text that an expression stands for, given the texts of the parts that have none of their
own. -/
def spelled (given : Way → String) : Expr → String
  | binary _ _ .add left right =>
    left.spelled (fun way => given (.left :: way)) ++ right.spelled (fun way => given (.right :: way))
  | paren _ _ inner => inner.spelled given
  | e => e.ownText?.getD (given [])

/-- Expressions that differ in how joins are grouped, in parentheses, and in the identities and
places of nodes. -/
inductive Regrouped : Expr → Expr → Prop where
  | refl (e : Expr) : Regrouped e e
  | symm {e e' : Expr} : Regrouped e e' → Regrouped e' e
  | trans {e e' e'' : Expr} : Regrouped e e' → Regrouped e' e'' → Regrouped e e''
  /-- Parentheses are put around an expression. -/
  | enclose (id : NodeId) (span : Span) (e : Expr) : Regrouped e (paren id span e)
  /-- The left join of two is made last instead of first. -/
  | rotate {i j i' j' : NodeId} {s t s' t' : Span} {a b c : Expr} :
      Regrouped (binary i s .add (binary j t .add a b) c) (binary i' s' .add a (binary j' t' .add b c))
  | literal {id id' : NodeId} {span span' : Span} {raw : String} :
      Regrouped (literal id span raw) (literal id' span' raw)
  | ident {id id' : NodeId} {span span' : Span} {name : String} :
      Regrouped (ident id span name) (ident id' span' name)
  | select {id id' : NodeId} {span span' : Span} {operand operand' : Expr} {field field' : FieldName} :
      Regrouped operand operand' → field'.name = field.name →
        Regrouped (select id span operand field) (select id' span' operand' field')
  | callee {id id' : NodeId} {span span' : Span} {callee callee' : Expr} {args : List Expr} :
      Regrouped callee callee' → Regrouped (call id span callee args) (call id' span' callee' args)
  | argument {id id' : NodeId} {span span' : Span} {callee arg arg' : Expr} {before after : List Expr} :
      Regrouped arg arg' →
        Regrouped (call id span callee (before ++ arg :: after))
          (call id' span' callee (before ++ arg' :: after))
  | operands {id id' : NodeId} {span span' : Span} {op : Operator} {left left' right right' : Expr} :
      Regrouped left left' → Regrouped right right' →
        Regrouped (binary id span op left right) (binary id' span' op left' right')
  | inner {id id' : NodeId} {span span' : Span} {inner inner' : Expr} : Regrouped inner inner' →
      Regrouped (paren id span inner) (paren id' span' inner')
  | child {id id' : NodeId} {span span' : Span} {kind : String} {child child' : Expr}
      {before after : List Expr} : Regrouped child child' →
        Regrouped (other id span kind (before ++ child :: after))
          (other id' span' kind (before ++ child' :: after))

end Expr

/-- A list that is made of two others, the elements of each in their order. -/
inductive Interleaved {α : Type} : List α → List α → List α → Prop where
  | nil : Interleaved [] [] []
  | left {a : α} {as bs cs : List α} : Interleaved as bs cs → Interleaved (a :: as) bs (a :: cs)
  | right {b : α} {as bs cs : List α} : Interleaved as bs cs → Interleaved as (b :: bs) (b :: cs)

/-! ## Leaves -/

namespace Expr

/-- The text of a part. -/
def leafText (given : Way → String) (leaf : Way × Expr) : String :=
  leaf.2.ownText?.getD (given leaf.1)

/-- What an expression says is what its parts say. -/
theorem spelled_eq_join (given : Way → String) (e : Expr) :
    e.spelled given = String.join (e.leaves.map (leafText given)) := by
  induction e using leaves.induct generalizing given with
  | case1 id span left right ihl ihr =>
    rw [spelled, leaves, List.map_append, String.join_append, List.map_map, List.map_map, ihl, ihr]
    rfl
  | case2 id span inner ih => rw [spelled, leaves, ih]
  | case3 e hadd hparen =>
    simp only [spelled, leaves, List.map_cons, List.map_nil, String.join_cons, String.join_nil,
      String.append_empty]
    rfl

/-- There is one way to each part. -/
theorem nodup_ways (e : Expr) : (e.leaves.map (·.1)).Nodup := by
  induction e using leaves.induct with
  | case1 id span left right ihl ihr =>
    have hways : ∀ (side : Side) (leaves : List (Way × Expr)),
        (leaves.map fun leaf => (side :: leaf.1, leaf.2)).map (·.1) =
          (leaves.map (·.1)).map (side :: ·) := by
      intro side leaves
      simp only [List.map_map, Function.comp_def]
    have hsteps : ∀ side : Side, Function.Injective (side :: · : Way → Way) :=
      fun side _ _ h => (List.cons.inj h).2
    rw [leaves, List.map_append, hways, hways, List.nodup_append]
    refine ⟨ihl.map (hsteps .left), ihr.map (hsteps .right), ?_⟩
    -- a way to the left is none to the right
    intro way hway way' hway'
    obtain ⟨_, -, rfl⟩ := List.mem_map.1 hway
    obtain ⟨_, -, rfl⟩ := List.mem_map.1 hway'
    simp
  | case2 id span inner ih => rwa [leaves]
  | case3 e hadd hparen => simp [leaves]

theorem nodup_gaps (e : Expr) : e.gaps.Nodup :=
  (List.filter_sublist.map _).nodup e.nodup_ways

end Expr

namespace Message

/-- The fragments of a message are the texts of those of its parts that have one. -/
theorem fragments_eq_filterMap (e : Expr) :
    fragments e = e.leaves.filterMap fun leaf => leaf.2.ownText? := by
  induction e using Expr.leaves.induct with
  | case1 id span left right ihl ihr =>
    rw [fragments, Expr.leaves, List.filterMap_append, List.filterMap_map, List.filterMap_map, ihl, ihr]
    rfl
  | case2 id span inner ih => rw [fragments, Expr.leaves, ih]
  | case3 e hadd hparen =>
    have hleaf : e.leaves = [([], e)] := Expr.leaves.eq_3 e hadd hparen
    rw [hleaf]
    cases e with
    | literal id span raw => cases h : Literal.value? raw <;> simp [fragments, Expr.ownText?, h]
    | paren id span inner => exact absurd rfl (hparen id span inner)
    | binary id span op left right =>
      cases op with
      | add => exact absurd rfl (hadd id span left right)
      | other symbol => rfl
    | _ => rfl

/-- A list of parts is made of those with a text of their own and those without one. -/
theorem interleaved_leaves (given : Way → String) (leaves : List (Way × Expr)) :
    Interleaved (leaves.filterMap fun leaf => leaf.2.ownText?)
      (((leaves.filter (·.2.ownText?.isNone)).map (·.1)).map given)
      (leaves.map (Expr.leafText given)) := by
  induction leaves with
  | nil => exact .nil
  | cons leaf leaves ih =>
    cases htext : leaf.2.ownText? with
    | none =>
      have hgiven : Expr.leafText given leaf = given leaf.1 := by simp [Expr.leafText, htext]
      simp only [List.filterMap_cons, List.filter_cons, List.map_cons, htext, hgiven, Option.isNone_none,
        if_true]
      exact .right ih
    | some text =>
      have hown : Expr.leafText given leaf = text := by simp [Expr.leafText, htext]
      simp only [List.filterMap_cons, List.filter_cons, List.map_cons, htext, hown, Option.isNone_some,
        Bool.false_eq_true, if_false]
      exact .left ih

/-! ## Regrouping -/

theorem fragments_regrouped {e e' : Expr} (h : e.Regrouped e') : fragments e' = fragments e := by
  induction h with
  | refl => rfl
  | symm _ ih => exact ih.symm
  | trans _ _ ih ih' => exact ih'.trans ih
  | enclose id span e => rw [fragments]
  | rotate => simp only [fragments, List.append_assoc]
  | @operands _ _ _ _ op _ _ _ _ _ _ ihl ihr =>
    cases op with
    | add => rw [fragments, fragments, ihl, ihr]
    | other symbol => rfl
  | inner _ ih => rw [fragments, fragments, ih]
  | literal | ident | select | callee | argument | child => rfl

theorem isReplaceable_regrouped {e e' : Expr} (h : e.Regrouped e') :
    isReplaceable e' = isReplaceable e := by
  induction h with
  | symm _ ih => exact ih.symm
  | trans _ _ ih ih' => exact ih'.trans ih
  | inner _ ih => exact ih
  | refl | enclose | rotate | literal | ident | select | callee | argument | operands | child => rfl

/-- **What a message says.** Whatever the parts without a text of their own say, a message says its
fragments and these texts, each in their order. Where every part is a literal with a value, it says
its fragments and nothing else. How its joins are grouped, and which parentheses stand in it, changes
neither its fragments nor whether it may be replaced. -/
theorem fragments_spelled (e : Expr) :
    (∀ given : Way → String, ∃ pieces, Interleaved (fragments e) (e.gaps.map given) pieces ∧
      e.spelled given = String.join pieces) ∧
    e.gaps.Nodup ∧
    ((∀ leaf ∈ e.leaves, leaf.2.ownText?.isSome = true) →
      ∀ given, e.spelled given = String.join (fragments e)) ∧
    ∀ e', e.Regrouped e' → fragments e' = fragments e ∧ isReplaceable e' = isReplaceable e := by
  refine ⟨fun given => ⟨_, ?_, e.spelled_eq_join given⟩, e.nodup_gaps, fun hleaves given => ?_, ?_⟩
  · rw [fragments_eq_filterMap]
    exact interleaved_leaves given e.leaves
  · have htexts : e.leaves.map (Expr.leafText given) = e.leaves.filterMap fun leaf => leaf.2.ownText? := by
      rw [← List.filterMap_eq_map]
      refine List.filterMap_congr fun leaf hleaf => ?_
      obtain ⟨text, htext⟩ := Option.isSome_iff_exists.1 (hleaves leaf hleaf)
      simp [Expr.leafText, htext]
    rw [Expr.spelled_eq_join, htexts, fragments_eq_filterMap]
  · exact fun e' h => ⟨fragments_regrouped h, isReplaceable_regrouped h⟩

/-- A greeting in which a name stands between two literals, grouped in two ways. -/
theorem fragments_spelled_greeting : ∃ e e' : Expr,
    e.Regrouped e' ∧ e' ≠ e ∧ fragments e = ["hello, ", "!"] ∧ e.gaps = [[.right, .left]] ∧
    e.spelled (fun _ => "you") = "hello, you!" ∧
    (∃ pieces, Interleaved (fragments e) (e.gaps.map fun _ => "you") pieces ∧
      e.spelled (fun _ => "you") = String.join pieces) ∧
    fragments e' = fragments e ∧ isReplaceable e' = isReplaceable e := by
  let hello : Expr := .literal 1 {} "\"hello, \""
  let name : Expr := .ident 4 {} "name"
  let mark : Expr := .literal 5 {} "`!`"
  let e : Expr := .binary 0 {} .add hello (.paren 2 {} (.binary 3 {} .add name mark))
  let e' : Expr := .binary 0 {} .add (.binary 3 {} .add hello name) mark
  have hopened : e.Regrouped (.binary 0 {} .add hello (.binary 3 {} .add name mark)) :=
    .operands (.refl hello) (.symm (.enclose 2 {} _))
  have hregrouped : e.Regrouped e' := hopened.trans (.symm .rotate)
  have hne : e' ≠ e := by
    intro h
    have hleft := (Expr.binary.inj h).2.2.2.1
    cases hleft
  obtain ⟨hspelled, -, -, hsame⟩ := fragments_spelled e
  exact ⟨e, e', hregrouped, hne, by decide +kernel, by decide +kernel, by decide +kernel,
    hspelled _, hsame e' hregrouped⟩

end Message

end LogStyle
