import LogStyle.Proofs.Notes
import LogStyle.Proofs.Verdict
import Mathlib.Data.List.Forall2

/-!
# Expressions before and after a fix

When literals among the arguments of calls are replaced, the expressions of a file stay what they
are, up to the identities of their nodes, the places and the replaced arguments.

* `Rewrite`: the replacements in a file, with the arguments of its calls.
* `Tree.becomes`: whether a tree is what becomes of another one when the replacements are made.
* `Tree.skeleton_of_becomes`: such trees have one skeleton.
* `Argument`, `Call`, `Same`: arguments, calls and expressions that correspond.
-/

namespace LogStyle

/-- The calls among the nodes of an expression. -/
def Expr.calls (e : Expr) : List Expr := e.nodes.filter isCall

def Expr.callsOfAll (es : List Expr) : List Expr := (nodesOfAll es).filter isCall

/-- Names, alone or selected from something. -/
def Expr.isName : Expr → Bool
  | ident .. => true
  | select .. => true
  | _ => false

namespace Expr

@[simp] theorem callsOfAll_nil : callsOfAll [] = [] := rfl

@[simp] theorem callsOfAll_cons (e : Expr) (es : List Expr) :
    callsOfAll (e :: es) = e.calls ++ callsOfAll es := by
  rw [callsOfAll, nodesOfAll, List.filter_append]
  rfl

@[simp] theorem callsOfAll_append (es fs : List Expr) :
    callsOfAll (es ++ fs) = callsOfAll es ++ callsOfAll fs := by
  induction es with
  | nil => rfl
  | cons e es ih => simp [ih]

variable {id : NodeId} {span : Span}

@[simp] theorem calls_literal {raw : String} : (literal id span raw).calls = [] := by
  simp [calls, nodes, isCall]

@[simp] theorem calls_ident {name : String} : (ident id span name).calls = [] := by
  simp [calls, nodes, isCall]

@[simp] theorem calls_select {operand : Expr} {field : FieldName} :
    (select id span operand field).calls = operand.calls := by
  simp [calls, nodes, isCall]

@[simp] theorem calls_call {callee : Expr} {args : List Expr} :
    (call id span callee args).calls =
      call id span callee args :: (callee.calls ++ callsOfAll args) := by
  rw [calls, nodes, List.filter_cons_of_pos rfl, List.filter_append]
  rfl

@[simp] theorem calls_binary {op : Operator} {left right : Expr} :
    (binary id span op left right).calls = left.calls ++ right.calls := by
  simp [calls, nodes, isCall]

@[simp] theorem calls_paren {inner : Expr} : (paren id span inner).calls = inner.calls := by
  simp [calls, nodes, isCall]

@[simp] theorem calls_other {kind : String} {children : List Expr} :
    (other id span kind children).calls = callsOfAll children := by
  simp [calls, callsOfAll, nodes, isCall]

end Expr

namespace Go

/-- The replacements in a file, with the arguments of its calls. -/
structure Rewrite where
  made : List Replacement
  file : String
  arguments : List Tree

/-- Whether a stretch of the file is replaced. -/
def Rewrite.replaces (r : Rewrite) (span : Span) : Bool :=
  r.made.any (·.location = Location.ofSpan r.file span)

/-- Whether a node is the literal that is written for a stretch of the file. -/
def Rewrite.writes (r : Rewrite) (span : Span) (t : Tree) : Bool :=
  t.field = none && t.kind = .interpretedStringLiteral
    && r.made.any fun m => m.location = Location.ofSpan r.file span && m.newText = t.text

namespace Tree

mutual

/-- The arguments of the calls in a tree. -/
def arguments : Tree → List Tree
  | .node _ kind _ _ children => argumentsOfAll (kind = .argumentList) children

/-- The arguments in some nodes, which may be arguments themselves. -/
def argumentsOfAll (isList : Bool) : List Tree → List Tree
  | [] => []
  | t :: rest => (if isList && t.isNamed then [t] else []) ++ t.arguments ++ argumentsOfAll isList rest

end

mutual

/-- Whether a tree is what becomes of another one when replacements are made: an argument at the
place of a replacement is a literal and gives way to the one that is written, and everything else
stays, if perhaps at another place. What has the role of arguments is a list of them. -/
def becomes (r : Rewrite) : Tree → Tree → Bool
  | .node field kind _ text children, t' =>
    t'.field = field && t'.kind = kind && t'.text = text
      && (field ≠ some .arguments || kind = .argumentList)
      && becomesAll r (kind = .argumentList) children t'.children

def becomesAll (r : Rewrite) (isList : Bool) : List Tree → List Tree → Bool
  | [], ts' => ts'.isEmpty
  | t :: ts, ts' =>
    match ts' with
    | [] => false
    | t' :: ts' =>
      (if isList && t.isNamed && r.replaces t.span then t.isPlainText && r.writes t.span t'
        else becomes r t t')
        && becomesAll r isList ts ts'

end

variable {r : Rewrite} {isList : Bool} {t t' : Tree} {ts ts' : List Tree}

theorem becomes_iff : becomes r t t' = true ↔ t'.field = t.field ∧ t'.kind = t.kind ∧
    t'.text = t.text ∧ (t.field = some .arguments → t.kind = .argumentList) ∧
    becomesAll r (t.kind = .argumentList) t.children t'.children = true := by
  obtain ⟨field, kind, span, text, children⟩ := t
  have hor : ((field ≠ some .arguments || kind = .argumentList : Bool) = true) ↔
      (field = some .arguments → kind = .argumentList) := by
    rw [Bool.or_eq_true, decide_eq_true_eq, decide_eq_true_eq, ← imp_iff_not_or]
  simp only [becomes, Bool.and_eq_true, hor, decide_eq_true_eq, and_assoc]
  rfl

theorem raw?_of_writes {span : Span} (h : r.writes span t = true) :
    t.isPlainText = true ∧ ∃ m ∈ r.made, m.location = Location.ofSpan r.file span ∧
      t.raw? = some m.newText := by
  obtain ⟨field, kind, _, text, children⟩ := t
  simp only [Rewrite.writes, Bool.and_eq_true, decide_eq_true_eq, List.any_eq_true] at h
  obtain ⟨⟨rfl, rfl⟩, m, hm, hloc, htext⟩ := h
  refine ⟨rfl, m, hm, hloc, ?_⟩
  rw [raw?, htext]
  rfl

mutual

theorem raw?_of_becomes : ∀ t t' : Tree, becomes r t t' = true → t'.raw? = t.raw?
  | .node field kind span text children, .node field' kind' span' text' children', h => by
    obtain ⟨-, (rfl : kind' = kind), (rfl : text' = text), -, hchildren⟩ := becomes_iff.1 h
    by_cases hkind : kind' = .parenthesizedExpression
    · subst hkind
      exact rawOfFirst?_of_becomes children children' hchildren
    · cases kind' <;> first | rfl | exact absurd rfl hkind

theorem rawOfFirst?_of_becomes : ∀ ts ts' : List Tree, becomesAll r false ts ts' = true →
    rawOfFirst? ts' = rawOfFirst? ts
  | [], ts', h => by
    simp only [becomesAll, List.isEmpty_iff] at h
    rw [h]
  | t :: ts, [], h => by simp [becomesAll] at h
  | t :: ts, t' :: ts', h => by
    simp only [becomesAll, Bool.false_and, Bool.false_eq_true, if_false, Bool.and_eq_true] at h
    have hnamed : t'.isNamed = t.isNamed := by
      rw [isNamed, isNamed, (becomes_iff.1 h.1).2.1]
    rw [rawOfFirst?, rawOfFirst?, hnamed, raw?_of_becomes t t' h.1, rawOfFirst?_of_becomes ts ts' h.2]

end

theorem isPlainText_of_becomes (h : becomes r t t' = true) : t'.isPlainText = t.isPlainText := by
  rw [isPlainText, isPlainText, raw?_of_becomes t t' h, (becomes_iff.1 h).1]

mutual

/-- **A tree and what becomes of it have one skeleton.** -/
theorem skeleton_of_becomes : ∀ t t' : Tree, becomes r t t' = true → t'.skeleton = t.skeleton
  | .node field kind span text children, .node field' kind' span' text' children', h => by
    obtain ⟨(rfl : field' = field), (rfl : kind' = kind), (rfl : text' = text), -, hchildren⟩ :=
      becomes_iff.1 h
    rw [skeleton, skeleton]
    exact congrArg _ (skeletons_of_becomes _ children children' hchildren)

theorem skeletons_of_becomes (isList : Bool) : ∀ ts ts' : List Tree,
    becomesAll r isList ts ts' = true → skeletons isList ts' = skeletons isList ts
  | [], ts', h => by
    simp only [becomesAll, List.isEmpty_iff] at h
    rw [h]
  | t :: ts, [], h => by simp [becomesAll] at h
  | t :: ts, t' :: ts', h => by
    rw [becomesAll, Bool.and_eq_true] at h
    have ih := skeletons_of_becomes isList ts ts' h.2
    split at h
    · rename_i hc
      rw [Bool.and_eq_true, Bool.and_eq_true] at hc
      have hplain := Bool.and_eq_true_iff.1 h.1
      -- the literal and the one that is written are left out of both skeletons
      rw [skeletons, skeletons, hc.1.1, hplain.1, (raw?_of_writes hplain.2).1, ← hc.1.1]
      simpa using ih
    · rw [skeletons, skeletons, isPlainText_of_becomes h.1, skeleton_of_becomes t t' h.1, ih]

end

end Tree

/-! ## Corresponding expressions -/

section

variable (r : Rewrite) (w w' : Window)

/-- Two names, or two expressions that are none, with the same notes. -/
inductive Shape : Expr → Expr → Prop where
  | ident {id id' span span' name} : Agree w w' id id' →
      Shape (.ident id span name) (.ident id' span' name)
  | select {id id' span span' operand operand' field field'} : Agree w w' id id' →
      Agree w w' field.id field'.id →
      Shape (.select id span operand field) (.select id' span' operand' field')
  | other {e e'} : Agree w w' e.id e'.id → e.isName = false → e'.isName = false → Shape e e'

/-- Arguments of calls that correspond: one is what becomes of the other. -/
structure Argument (m m' : Expr) : Prop where
  agree : Agree w w' m.stripParens.id m'.stripParens.id
  corrected : Message.Corrected r.made r.file m m'
  origin : ∃ c ∈ r.arguments, c.span = m.span ∧ c.raw? = m.raw?

/-- Calls that correspond. -/
inductive Call : Expr → Expr → Prop where
  | call {id id' span span' callee callee' args args'} : Shape w w' callee callee' →
      List.Forall₂ (Argument r w w') args args' →
      Call (.call id span callee args) (.call id' span' callee' args')

/-- Expressions with corresponding calls in them. -/
def SameCalls (es es' : List Expr) : Prop :=
  List.Forall₂ (Call r w w') (Expr.callsOfAll es) (Expr.callsOfAll es')

/-- Expressions that correspond. -/
structure Same (e e' : Expr) : Prop where
  shape : Shape w w' e e'
  inner : Shape w w' e.stripParens e'.stripParens
  fragments : Message.fragments e' = Message.fragments e
  calls : List.Forall₂ (Call r w w') e.calls e'.calls

end

section

variable {r : Rewrite} {w w' v v' : Window} {e e' m m' : Expr} {es es' : List Expr}

theorem Shape.mono (h : Shape w w' e e') (hw : w.Within v) (hw' : w'.Within v') :
    Shape v v' e e' := by
  cases h with
  | ident h => exact .ident (h.mono hw hw')
  | select h hfield => exact .select (h.mono hw hw') (hfield.mono hw hw')
  | other h hname hname' => exact .other (h.mono hw hw') hname hname'

theorem Shape.agree (h : Shape w w' e e') : Agree w w' e.id e'.id := by
  cases h <;> assumption

theorem Shape.isName (h : Shape w w' e e') : e'.isName = e.isName := by
  cases h with
  | ident => rfl
  | select => rfl
  | other _ hname hname' => rw [hname, hname']

theorem Argument.mono (h : Argument r w w' m m') (hw : w.Within v) (hw' : w'.Within v') :
    Argument r v v' m m' :=
  ⟨h.agree.mono hw hw', h.corrected, h.origin⟩

theorem Call.mono (h : Call r w w' e e') (hw : w.Within v) (hw' : w'.Within v') :
    Call r v v' e e' := by
  cases h with
  | call hcallee hargs =>
    exact .call (hcallee.mono hw hw') (hargs.imp fun _ _ h => h.mono hw hw')

theorem forall₂_call_mono (hw : w.Within v) (hw' : w'.Within v')
    (h : List.Forall₂ (Call r w w') es es') : List.Forall₂ (Call r v v') es es' :=
  h.imp fun _ _ h => h.mono hw hw'

theorem Same.mono (h : Same r w w' e e') (hw : w.Within v) (hw' : w'.Within v') :
    Same r v v' e e' :=
  ⟨h.shape.mono hw hw', h.inner.mono hw hw', h.fragments, forall₂_call_mono hw hw' h.calls⟩

/-- Expressions that are neither names nor parentheses. -/
theorem Same.of_agree (h : Agree w w' e.id e'.id) (hname : e.isName = false)
    (hname' : e'.isName = false) (hstrip : e.stripParens = e) (hstrip' : e'.stripParens = e')
    (hfragments : Message.fragments e' = Message.fragments e)
    (hcalls : List.Forall₂ (Call r w w') e.calls e'.calls) : Same r w w' e e' := by
  have hshape : Shape w w' e e' := .other h hname hname'
  exact ⟨hshape, by rwa [hstrip, hstrip'], hfragments, hcalls⟩

theorem sameCalls_of_same (h : List.Forall₂ (Same r w w') es es') : SameCalls r w w' es es' := by
  induction h with
  | nil => exact .nil
  | cons h _ ih =>
    rw [SameCalls, Expr.callsOfAll_cons, Expr.callsOfAll_cons]
    exact List.rel_append h.calls ih

theorem SameCalls.append {fs fs' : List Expr} (h : SameCalls r w w' es es')
    (h' : SameCalls r w w' fs fs') : SameCalls r w w' (es ++ fs) (es' ++ fs') := by
  rw [SameCalls, Expr.callsOfAll_append, Expr.callsOfAll_append]
  exact List.rel_append h h'

/-! ## Messages -/

theorem calledFunction?_of_shape (h : Shape w w' e e') :
    LoggingApi.calledFunction? w'.state.table.resolver e' =
      LoggingApi.calledFunction? w.state.table.resolver e := by
  have huse : ∀ {i i'}, Agree w w' i i' →
      w'.state.table.resolver.useOf i' = w.state.table.resolver.useOf i :=
    fun h => (congrArg Note.use h.note).symm
  have hselection : ∀ {i i'}, Agree w w' i i' →
      w'.state.table.resolver.selection i' = w.state.table.resolver.selection i :=
    fun h => (congrArg Note.selection h.note).symm
  cases h with
  | ident h => simp only [LoggingApi.calledFunction?, huse h]
  | select h hfield => simp only [LoggingApi.calledFunction?, hselection h, huse hfield]
  | other h hname hname' =>
    have hnone : ∀ {types : Resolver} {e : Expr}, e.isName = false →
        LoggingApi.calledFunction? types e = none := by
      intro types e he
      cases e <;> first | rfl | cases he
    rw [hnone hname, hnone hname']

theorem forall₂_getElem? {α β : Type} {R : α → β → Prop} {as : List α} {bs : List β}
    (h : List.Forall₂ R as bs) (i : Nat) : (as[i]? = none ∧ bs[i]? = none) ∨
      ∃ a b, as[i]? = some a ∧ bs[i]? = some b ∧ R a b := by
  induction h generalizing i with
  | nil => exact .inl ⟨rfl, rfl⟩
  | cons h _ ih =>
    cases i with
    | zero => exact .inr ⟨_, _, rfl, rfl, h⟩
    | succ i => simpa using ih i

/-- **Corresponding calls have corresponding messages, or none.** -/
theorem Call.resolve? (h : Call r w w' e e') :
    (LoggingApi.resolve? w.state.table.resolver e = none ∧
        LoggingApi.resolve? w'.state.table.resolver e' = none) ∨
      ∃ a a', LoggingApi.resolve? w.state.table.resolver e = some a ∧
        LoggingApi.resolve? w'.state.table.resolver e' = some a' ∧
        Argument r w w' a.expr a'.expr := by
  obtain @⟨_, _, _, _, callee, callee', args, args', hcallee, hargs⟩ := h
  -- the function is the same, and with it the place of the message among the arguments
  simp only [LoggingApi.resolve?, calledFunction?_of_shape hcallee]
  cases LoggingApi.calledFunction? w.state.table.resolver callee with
  | none => exact .inl ⟨rfl, rfl⟩
  | some f =>
    cases hpackage : f.package with
    | none => simp [hpackage]
    | some package =>
      cases hindex : LoggingApi.messageIndex? package f.name with
      | none => simp [hpackage, hindex]
      | some index =>
        rcases forall₂_getElem? hargs index with ⟨hm, hm'⟩ | ⟨m, m', hm, hm', hargument⟩
        · simp [hpackage, hindex, hm, hm']
        · have htext : LoggingApi.isText w'.state.table.resolver m' =
              LoggingApi.isText w.state.table.resolver m := by
            have htype := congrArg Note.type hargument.agree.note
            unfold LoggingApi.isText
            exact congrArg (Option.any _) htype.symm
          simp only [hpackage, hindex, hm, hm', htext, Option.bind_eq_bind, Option.bind_some]
          split
          · exact .inr ⟨_, _, rfl, rfl, hargument⟩
          · exact .inl ⟨rfl, rfl⟩

end

end Go

end LogStyle
