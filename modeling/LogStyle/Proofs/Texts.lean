import LogStyle.Proofs.Points
import LogStyle.Proofs.Sources
import LogStyle.Proofs.Verdict

/-!
# Literal text is never hidden

A logging call is left alone if its message is not known to be a text. Wherever a literal is joined
into an expression, the expression is known to be a text, so that no literal is lost in this way.

* `Message.Joins`: a literal is reached through parentheses and joins only.
* `isText_of_joins`: **what a literal is joined into is known to be a text.**
* `literals_never_hidden`: **a call of a known function with enough arguments is left alone only if
  there is no literal text in its message.**
-/

namespace LogStyle

/-! ## Parts of expressions -/

namespace Expr

theorem self_mem_nodes (e : Expr) : e ∈ e.nodes := by
  rw [nodes_eq]
  exact List.mem_cons_self

theorem mem_nodesOfAll_of_mem {es : List Expr} {e : Expr} (h : e ∈ es) : e ∈ nodesOfAll es :=
  mem_nodesOfAll.2 ⟨e, h, e.self_mem_nodes⟩

variable {e p : Expr}

theorem sizeOf_lt_of_mem_parts (h : p ∈ e.parts) : sizeOf p < sizeOf e := by
  have hargs : ∀ {es : List Expr}, p ∈ es → sizeOf p < sizeOf es := fun h => List.sizeOf_lt_of_mem h
  cases e with
  | literal | ident => cases h
  | select | paren =>
    obtain rfl := List.mem_singleton.1 h
    simp only [select.sizeOf_spec, paren.sizeOf_spec]
    omega
  | call id span callee args =>
    simp only [call.sizeOf_spec]
    rcases List.mem_cons.1 h with rfl | h
    · omega
    · have hlt := hargs h
      omega
  | binary id span op left right =>
    simp only [parts, List.mem_cons, List.not_mem_nil, or_false] at h
    simp only [binary.sizeOf_spec]
    rcases h with rfl | rfl <;> omega
  | other id span kind children =>
    have hlt : sizeOf p < sizeOf children := hargs h
    simp only [other.sizeOf_spec]
    omega

/-- The nodes of an expression are closed under parts. -/
theorem part_mem_nodes (hp : p ∈ e.parts) (root : Expr) (h : e ∈ root.nodes) : p ∈ root.nodes := by
  rw [nodes_eq] at h ⊢
  rcases List.mem_cons.1 h with rfl | h
  · exact List.mem_cons_of_mem _ (mem_nodesOfAll_of_mem hp)
  · obtain ⟨q, hq, h⟩ := mem_nodesOfAll.1 h
    exact List.mem_cons_of_mem _ (mem_nodesOfAll.2 ⟨q, hq, part_mem_nodes hp q h⟩)
termination_by sizeOf root
decreasing_by exact sizeOf_lt_of_mem_parts hq

theorem part_mem_nodesOfAll {es : List Expr} (h : e ∈ nodesOfAll es) (hp : p ∈ e.parts) :
    p ∈ nodesOfAll es := by
  obtain ⟨root, hroot, h⟩ := mem_nodesOfAll.1 h
  exact mem_nodesOfAll.2 ⟨root, hroot, part_mem_nodes hp root h⟩

/-- What a call calls, and what it is called with. -/
def called? : Expr → Option (Expr × List Expr)
  | call _ _ callee args => some (callee, args)
  | _ => none

theorem called?_eq_some {callee : Expr} {args : List Expr} :
    e.called? = some (callee, args) ↔ ∃ id span, e = call id span callee args := by
  cases e <;> simp [called?]

end Expr

namespace Message

/-- A string literal is reached from an expression through parentheses and joins only. -/
inductive Joins : Expr → Prop where
  | literal {id : NodeId} {span : Span} {raw : String} : Joins (.literal id span raw)
  | paren {id : NodeId} {span : Span} {inner : Expr} : Joins inner → Joins (.paren id span inner)
  | left {id : NodeId} {span : Span} {left right : Expr} : Joins left →
      Joins (.binary id span .add left right)
  | right {id : NodeId} {span : Span} {left right : Expr} : Joins right →
      Joins (.binary id span .add left right)

theorem joins_paren {id : NodeId} {span : Span} {inner : Expr} :
    Joins (.paren id span inner) ↔ Joins inner := by
  constructor
  · rintro (_ | h)
    exact h
  · exact .paren

theorem joins_add {id : NodeId} {span : Span} {left right : Expr} :
    Joins (.binary id span .add left right) ↔ Joins left ∨ Joins right := by
  constructor
  · rintro (_ | _ | h | h)
    · exact .inl h
    · exact .inr h
  · rintro (h | h)
    · exact .left h
    · exact .right h

instance decidableJoins : DecidablePred Joins
  | .literal .. => isTrue .literal
  | .paren _ _ inner => have := decidableJoins inner; decidable_of_iff _ joins_paren.symm
  | .binary _ _ .add left right =>
    have := decidableJoins left
    have := decidableJoins right
    decidable_of_iff _ joins_add.symm
  | .ident .. | .select .. | .call .. | .other .. | .binary _ _ (.other _) _ _ => isFalse nofun

/-- Only literals that are joined into an expression give it texts. -/
theorem joins_of_fragments {e : Expr} (h : fragments e ≠ []) : Joins e := by
  fun_induction fragments e with
  | case1 => exact .literal
  | case2 id span left right ihl ihr =>
    by_cases hleft : fragments left = []
    · rw [hleft, List.nil_append] at h
      exact .right (ihr h)
    · exact .left (ihl hleft)
  | case3 id span inner ih => exact .paren (ih h)
  | case4 => exact absurd rfl h

end Message

/-- What a logging call is. -/
theorem LoggingApi.of_resolve? {types : Resolver} {call : Expr} {argument : MessageArgument}
    (h : resolve? types call = some argument) :
    ∃ id span callee args f package, call = .call id span callee args ∧
      calledFunction? types callee = some f ∧ f.package = some package ∧
      messageIndex? package f.name = some argument.index ∧
      args[argument.index]? = some argument.expr := by
  cases call with
  | call id span callee args =>
    simp only [resolve?, Option.bind_eq_bind, Option.bind_eq_some_iff,
      Option.ite_none_right_eq_some, Option.some.injEq] at h
    obtain ⟨f, hf, package, hpackage, index, hindex, expr, hexpr, -, rfl⟩ := h
    exact ⟨id, span, callee, args, f, package, rfl, hf, hpackage, hindex, hexpr⟩
  | _ => cases h

namespace Go

open Message (Joins)

theorem Meaning.isStringLike_sumType {left right : Option StaticType}
    (h : left.any StaticType.isStringLike = true ∨ right.any StaticType.isStringLike = true) :
    (sumType left right).any StaticType.isStringLike = true := by
  unfold sumType
  by_cases hleft : left.any StaticType.isStringLike = true
  · rwa [if_pos hleft]
  · rw [if_neg hleft]
    have hright := h.resolve_left hleft
    rwa [if_pos hright]

section

variable {file : Tree} {e : Expr}

/-- Every expression of a file has its notes. -/
theorem exists_noted (h : e ∈ Expr.nodesOfAll (lowerFile file).1) :
    ∃ scopes, Noted file.declarations scopes file.visited.2 e := by
  obtain ⟨t, s, hreached, rfl⟩ := exists_reached h
  exact ⟨s.scopes, hreached.noted⟩

/-- Parentheses have the type of what stands in them. -/
theorem type_stripParens (h : e ∈ Expr.nodesOfAll (lowerFile file).1) :
    (file.visited.2.note e.stripParens.id).type = (file.visited.2.note e.id).type := by
  fun_induction Expr.stripParens e with
  | case1 id span inner ih =>
    have hinner := Expr.part_mem_nodesOfAll h (p := inner) (by simp [Expr.parts])
    obtain ⟨scopes, hnoted⟩ := exists_noted h
    simp only [Noted] at hnoted
    rw [ih hinner]
    exact (congrArg Note.type hnoted).symm
  | case2 => rfl

theorem isStringLike_of_joins (hjoins : Joins e) (h : e ∈ Expr.nodesOfAll (lowerFile file).1) :
    (file.visited.2.note e.id).type.any StaticType.isStringLike = true := by
  -- the induction goes down to the literal, and the notes carry its type up again
  induction hjoins with
  | literal =>
    obtain ⟨scopes, hnoted⟩ := exists_noted h
    simp only [Noted] at hnoted
    exact congrArg (fun note : Note => note.type.any StaticType.isStringLike) hnoted
  | @paren id span inner _ ih =>
    have hinner := ih (Expr.part_mem_nodesOfAll h (by simp [Expr.parts]))
    obtain ⟨scopes, hnoted⟩ := exists_noted h
    simp only [Noted] at hnoted
    rw [Expr.id, hnoted]
    exact hinner
  | @left id span left right _ ih =>
    have hleft := ih (Expr.part_mem_nodesOfAll h (by simp [Expr.parts]))
    obtain ⟨scopes, hnoted⟩ := exists_noted h
    simp only [Noted] at hnoted
    rw [Expr.id, hnoted]
    exact Meaning.isStringLike_sumType (.inl hleft)
  | @right id span left right _ ih =>
    have hright := ih (Expr.part_mem_nodesOfAll h (by simp [Expr.parts]))
    obtain ⟨scopes, hnoted⟩ := exists_noted h
    simp only [Noted] at hnoted
    rw [Expr.id, hnoted]
    exact Meaning.isStringLike_sumType (.inr hright)

/-- **What a literal is joined into is known to be a text.** -/
theorem isText_of_joins (hjoins : Joins e) (h : e ∈ Expr.nodesOfAll (lowerFile file).1) :
    LoggingApi.isText (lowerFile file).2.resolver e = true := by
  have htype := isStringLike_of_joins hjoins h
  rw [← type_stripParens h] at htype
  exact htype

/-- **A literal is never hidden because its type is not known.** In a file, whatever a literal is
joined into has the type of a text, parentheses aside, and a call of a known function with enough
arguments is left alone only if there is no literal text in its message. -/
theorem literals_never_hidden (file : Tree) :
    (∀ e ∈ Expr.nodesOfAll (lowerFile file).1, Joins e →
      ∃ type, (lowerFile file).2.resolver.typeOf e.stripParens.id = some type ∧
        type.isStringLike = true) ∧
    ∀ path id span callee args,
      .call id span callee args ∈ SourceUnit.calls ⟨path, (lowerFile file).1⟩ →
      ∀ f package index argument,
        LoggingApi.calledFunction? (lowerFile file).2.resolver callee = some f →
        f.package = some package → LoggingApi.messageIndex? package f.name = some index →
        args[index]? = some argument →
        LoggingApi.resolve? (lowerFile file).2.resolver (.call id span callee args) = none →
        Message.fragments argument = [] := by
  refine ⟨fun e he hjoins => ?_, ?_⟩
  · exact (Option.any_eq_true _ _).1 (isText_of_joins hjoins he)
  · intro path id span callee args hcall f package index argument hf hpackage hindex hargument hnone
    have hnode : argument ∈ Expr.nodesOfAll (lowerFile file).1 := by
      refine Expr.part_mem_nodesOfAll (List.mem_of_mem_filter hcall) ?_
      exact List.mem_cons_of_mem _ (List.mem_of_getElem? hargument)
    by_contra hfragments
    have htext := isText_of_joins (Message.joins_of_fragments hfragments) hnode
    simp [LoggingApi.resolve?, hf, hpackage, hindex, hargument, htext] at hnone

/-- A parameter of unknown type as the message, and a literal joined to it behind. -/
def joinedParameter : String :=
  "package p\nimport \"log/slog\"\nfunc f(x T) \x7b slog.Info(x, x + \"a\") \x7d"

theorem literals_never_hidden_parameter : ∃ file, Tree.ofSource? joinedParameter = some file ∧
    (∃ e ∈ Expr.nodesOfAll (lowerFile file).1, (Joins e ∧ e.isLiteral = false) ∧ ∃ type,
      (lowerFile file).2.resolver.typeOf e.stripParens.id = some type ∧ type.isStringLike = true) ∧
    ∃ id span callee args argument,
      .call id span callee args ∈ SourceUnit.calls ⟨"p.go", (lowerFile file).1⟩ ∧
      LoggingApi.calledFunction? (lowerFile file).2.resolver callee =
        some (.function "log/slog" "Info") ∧ args[0]? = some argument ∧
      LoggingApi.resolve? (lowerFile file).2.resolver (.call id span callee args) = none ∧
      Message.fragments argument = [] := by
  have hfile : (Tree.ofSource? joinedParameter).any
      (fun file => (Expr.nodesOfAll (lowerFile file).1).any (fun e => Joins e && !e.isLiteral) &&
        (SourceUnit.calls ⟨"p.go", (lowerFile file).1⟩).any fun call =>
          (LoggingApi.resolve? (lowerFile file).2.resolver call).isNone &&
            call.called?.any fun called => called.2[0]?.isSome &&
              LoggingApi.calledFunction? (lowerFile file).2.resolver called.1 =
                some (.function "log/slog" "Info")) = true := by
    rw [Tree.ofSource?_eq]
    decide +kernel
  obtain ⟨file, hfile, hboth⟩ := (Option.any_eq_true _ _).1 hfile
  obtain ⟨hsum, hleft⟩ := Bool.and_eq_true_iff.1 hboth
  refine ⟨file, hfile, ?_, ?_⟩
  · obtain ⟨e, he, hsum⟩ := List.any_eq_true.1 hsum
    obtain ⟨hjoins, hliteral⟩ : Joins e ∧ e.isLiteral = false := by simpa using hsum
    exact ⟨e, he, ⟨hjoins, hliteral⟩, (literals_never_hidden file).1 e he hjoins⟩
  · obtain ⟨call, hcall, hleft⟩ := List.any_eq_true.1 hleft
    obtain ⟨hnone, hcalled⟩ := Bool.and_eq_true_iff.1 hleft
    obtain ⟨⟨callee, args⟩, hcalled, hboth⟩ := (Option.any_eq_true _ _).1 hcalled
    obtain ⟨id, span, rfl⟩ := Expr.called?_eq_some.1 hcalled
    obtain ⟨hargument, hf⟩ := Bool.and_eq_true_iff.1 hboth
    obtain ⟨argument, hargument⟩ := Option.isSome_iff_exists.1 hargument
    have hf := of_decide_eq_true hf
    have hnone := Option.isNone_iff_eq_none.1 hnone
    refine ⟨id, span, callee, args, argument, hcall, hf, hargument, hnone, ?_⟩
    exact (literals_never_hidden file).2 "p.go" id span callee args hcall _ "log/slog" 0 argument
      hf rfl (by decide) hargument hnone

end

end Go

end LogStyle
