import LogStyle.Proofs.Translation

/-!
# Places and wordings play no part

A mask hides the places of nodes, or the wording of literals. What is done for a node does not depend
on what a mask hides: the same identities are handed out, the same notes are written, and the
expressions that are left behind differ only in what is hidden.

* `Mask`: what is hidden; `Tree.masked`, `Expr.masked` hide it.
* `Translation.hiding`: the translation that hides it, under which states stay as they are.
* `Tree.faithful_masked`: **a masked node does what the node does.**
* `Tree.alike_visited`: and so does a masked file.
* `Tree.visited_of_masked`: **files that do the same when they are masked do the same.**
-/

namespace LogStyle

/-- What is hidden: places, or the wording of literals. -/
structure Mask where
  places : Bool
  words : Bool

namespace Mask

/-- Hides the wording of literals. -/
def wording : Mask := ⟨false, true⟩

/-- Hides the places of nodes. -/
def placement : Mask := ⟨true, false⟩

/-- Hides what changes when messages are rewritten: their wording, and where nodes are. -/
def rewriting : Mask := ⟨true, true⟩

/-- Hides no wording. -/
def sparing (m : Mask) : Mask := { m with words := false }

def span (m : Mask) (s : Span) : Span := if m.places then {} else s

def text (m : Mask) (raw : String) : String := if m.words then "" else raw

@[simp] theorem span_span (m : Mask) (s : Span) : m.span (m.span s) = m.span s := by
  unfold span
  split <;> simp

@[simp] theorem text_text (m : Mask) (raw : String) : m.text (m.text raw) = m.text raw := by
  unfold text
  split <;> simp

end Mask

/-! ## Expressions -/

namespace Expr

mutual

/-- An expression without what is hidden. -/
def masked (m : Mask) : Expr → Expr
  | literal id span raw => literal id (m.span span) (m.text raw)
  | ident id span name => ident id (m.span span) name
  | select id span operand field =>
    select id (m.span span) (operand.masked m) { field with span := m.span field.span }
  | call id span callee args => call id (m.span span) (callee.masked m) (maskedAll m args)
  | binary id span op left right => binary id (m.span span) op (left.masked m) (right.masked m)
  | paren id span inner => paren id (m.span span) (inner.masked m)
  | other id span kind children => other id (m.span span) kind (maskedAll m children)

def maskedAll (m : Mask) : List Expr → List Expr
  | [] => []
  | e :: rest => e.masked m :: maskedAll m rest

end

variable {m : Mask} {e e' : Expr}

theorem maskedAll_eq (m : Mask) (es : List Expr) : maskedAll m es = es.map (masked m) := by
  induction es with
  | nil => rfl
  | cons e es ih => rw [maskedAll, ih, List.map_cons]

@[simp] theorem id_masked (m : Mask) (e : Expr) : (e.masked m).id = e.id := by
  cases e <;> rfl

@[simp] theorem span_masked (m : Mask) (e : Expr) : (e.masked m).span = m.span e.span := by
  cases e <;> rfl

mutual

theorem masked_masked (m : Mask) : ∀ e : Expr, (e.masked m).masked m = e.masked m
  | literal .. => by simp [masked]
  | ident .. => by simp [masked]
  | select _ _ operand _ => by simp [masked, masked_masked m operand]
  | call _ _ callee args => by simp [masked, masked_masked m callee, maskedAll_maskedAll m args]
  | binary _ _ _ left right => by simp [masked, masked_masked m left, masked_masked m right]
  | paren _ _ inner => by simp [masked, masked_masked m inner]
  | other _ _ _ children => by simp [masked, maskedAll_maskedAll m children]

theorem maskedAll_maskedAll (m : Mask) : ∀ es : List Expr, maskedAll m (maskedAll m es) = maskedAll m es
  | [] => rfl
  | e :: es => by rw [maskedAll, maskedAll, masked_masked m e, maskedAll_maskedAll m es]

end

@[simp] theorem isCall_masked (m : Mask) (e : Expr) : (e.masked m).isCall = e.isCall := by
  cases e <;> rfl

theorem stripParens_masked (m : Mask) (e : Expr) :
    (e.masked m).stripParens = e.stripParens.masked m := by
  induction e using stripParens.induct with
  | case1 id span inner ih => rw [masked, stripParens, stripParens, ih]
  | case2 e h =>
    cases e with
    | paren id span inner => exact absurd rfl (h id span inner)
    | _ => rfl

theorem parts_masked (m : Mask) (e : Expr) : (e.masked m).parts = e.parts.map (masked m) := by
  cases e <;> simp [masked, parts, maskedAll_eq]

theorem callsOfAll_masked (m : Mask) (es : List Expr) :
    callsOfAll (es.map (masked m)) = (callsOfAll es).map (masked m) :=
  callsOfAll_map (parts_masked m) (isCall_masked m) es

end Expr

namespace LoggingApi

theorem calledFunction?_masked (m : Mask) (types : Resolver) (e : Expr) :
    calledFunction? types (e.masked m) = calledFunction? types e := by
  cases e <;> rfl

theorem isText_masked (m : Mask) (types : Resolver) (e : Expr) :
    isText types (e.masked m) = isText types e := by
  rw [isText, isText, Expr.stripParens_masked, Expr.id_masked]

/-- The message of a call that is changed together with what is known is the changed message. -/
theorem resolve?_map {f : Expr → Expr} {types types' : Resolver} {id id' : NodeId}
    {span span' : Span} {callee : Expr} {args : List Expr}
    (hcallee : calledFunction? types' (f callee) = calledFunction? types callee)
    (htext : ∀ a ∈ args, isText types' (f a) = isText types a) :
    resolve? types' (.call id' span' (f callee) (args.map f)) =
      (resolve? types (.call id span callee args)).map fun a => ⟨f a.expr, a.index⟩ := by
  simp only [resolve?, hcallee]
  cases calledFunction? types callee with
  | none => rfl
  | some f =>
    cases hpackage : f.package with
    | none => simp [hpackage]
    | some package =>
      cases hindex : messageIndex? package f.name with
      | none => simp [hpackage, hindex]
      | some index =>
        cases hargument : args[index]? with
        | none => simp [hpackage, hindex, hargument]
        | some argument =>
          simp only [hpackage, hindex, hargument, Option.bind_eq_bind, Option.bind_some,
            List.getElem?_map, Option.map_some, htext argument (List.mem_of_getElem? hargument)]
          split <;> rfl

theorem resolve?_masked (m : Mask) (types : Resolver) (e : Expr) :
    resolve? types (e.masked m) = (resolve? types e).map fun a => ⟨a.expr.masked m, a.index⟩ := by
  cases e with
  | call id span callee args =>
    rw [Expr.masked, Expr.maskedAll_eq]
    exact resolve?_map (calledFunction?_masked m types callee) fun a _ => isText_masked m types a
  | _ => rfl

/-- A masked call has its message at the same place. -/
theorem index_masked (m : Mask) (types : Resolver) (e : Expr) :
    (resolve? types (e.masked m)).map (·.index) = (resolve? types e).map (·.index) := by
  rw [resolve?_masked, Option.map_map]
  rfl

/-- Masking calls may be put off until it is known which of them log. -/
theorem indices_masked (m : Mask) (types : Resolver) (es : List Expr) :
    (Expr.callsOfAll es).map (fun call =>
        (call.masked m, (resolve? types call).map (·.index))) =
      (Expr.callsOfAll (es.map (Expr.masked m))).map fun call =>
        (call, (resolve? types call).map (·.index)) := by
  rw [Expr.callsOfAll_masked, List.map_map]
  simp only [Function.comp_def, index_masked]

end LoggingApi

namespace Go

open Lower

/-! ## Trees -/

namespace Tree

mutual

/-- Whether two trees are the same. Texts are compared character by character. -/
def decEq : (t u : Tree) → Decidable (t = u)
  | .node field kind span text children, .node field' kind' span' text' children' =>
    if h : field = field' ∧ kind = kind' ∧ span = span' ∧ text.toList = text'.toList then
      match decEqAll children children' with
      | .isTrue hchildren => .isTrue (by
        obtain ⟨rfl, rfl, rfl, htext⟩ := h
        rw [hchildren, String.toList_inj.1 htext])
      | .isFalse hchildren => .isFalse fun heq => hchildren (node.inj heq).2.2.2.2
    else .isFalse fun heq =>
      have hparts := node.inj heq
      h ⟨hparts.1, hparts.2.1, hparts.2.2.1, congrArg String.toList hparts.2.2.2.1⟩

def decEqAll : (ts us : List Tree) → Decidable (ts = us)
  | [], [] => .isTrue rfl
  | [], _ :: _ => .isFalse (List.cons_ne_nil _ _).symm
  | _ :: _, [] => .isFalse (List.cons_ne_nil _ _)
  | t :: ts, u :: us =>
    match decEq t u, decEqAll ts us with
    | .isTrue h, .isTrue hs => .isTrue (by rw [h, hs])
    | .isFalse h, _ => .isFalse fun heq => h (List.cons.inj heq).1
    | _, .isFalse hs => .isFalse fun heq => hs (List.cons.inj heq).2

end

instance : DecidableEq Tree := decEq

mutual

/-- A tree without what is hidden. The text of a literal stays where it is read as a name. -/
def masked (m : Mask) : Tree → Tree
  | .node field kind span text children =>
    .node field kind (m.span span)
      (if (node field kind span text children).isWording then m.text text else text)
      (maskedAll m children)

def maskedAll (m : Mask) : List Tree → List Tree
  | [] => []
  | t :: rest => t.masked m :: maskedAll m rest

end

variable {m : Mask} {d : Declarations} {t : Tree} {role : Field}

theorem maskedAll_eq (m : Mask) (ts : List Tree) : maskedAll m ts = ts.map (masked m) := by
  induction ts with
  | nil => rfl
  | cons t ts ih => rw [maskedAll, ih, List.map_cons]

@[simp] theorem field_masked (m : Mask) (t : Tree) : (t.masked m).field = t.field := by
  cases t
  rw [masked, field, field]

@[simp] theorem kind_masked (m : Mask) (t : Tree) : (t.masked m).kind = t.kind := by
  cases t
  rw [masked, kind, kind]

theorem span_masked (m : Mask) (t : Tree) : (t.masked m).span = m.span t.span := by
  cases t
  rw [masked, span, span]

theorem text_masked (m : Mask) (t : Tree) :
    (t.masked m).text = if t.isWording then m.text t.text else t.text := by
  cases t
  rw [masked, text, text]

theorem children_masked (m : Mask) (t : Tree) : (t.masked m).children = t.children.map (masked m) := by
  cases t
  rw [masked, children, children, maskedAll_eq]

theorem parts_masked (m : Mask) (t : Tree) : (t.masked m).parts = t.parts.map (masked m) := by
  have hnamed : isNamed ∘ masked m = isNamed := funext fun c => by
    rw [Function.comp_apply, isNamed, isNamed, kind_masked]
  rw [parts, children_masked, List.filter_map, hnamed, parts]

/-- Masked nodes declare what the nodes declare. -/
theorem retains_masked (m : Mask) : Retains (masked m) where
  field := field_masked m
  kind := kind_masked m
  text t h := by rw [text_masked, h, if_neg Bool.false_ne_true]
  parts t _ := parts_masked m t
  filter t p hp _ := by
    rw [children_masked, List.filter_map]
    simp [Function.comp_def, hp]

@[simp] theorem child?_masked (m : Mask) (t : Tree) (role : Field) :
    (t.masked m).child? role = (t.child? role).map (masked m) :=
  (retains_masked m).child? t role

theorem identifiers_masked (m : Mask) (t : Tree) :
    Meaning.identifiers (t.masked m) = Meaning.identifiers t := by
  have htext : ∀ c : Tree, c.kind = .identifier → (c.masked m).text = c.text :=
    fun c hc => (retains_masked m).text c (isWording_of_kind (by simp [hc]) (by simp [hc]))
  have hnames : ∀ ts : List Tree, ((ts.map (masked m)).filter (·.kind = .identifier)).map text =
      (ts.filter (·.kind = .identifier)).map text := by
    intro ts
    rw [List.filter_map, List.map_map]
    simp only [Function.comp_def, kind_masked]
    exact List.map_congr_left fun c hc => htext c (of_decide_eq_true (List.mem_filter.1 hc).2)
  unfold Meaning.identifiers
  rw [kind_masked, parts_masked]
  split
  · exact hnames t.parts
  · exact hnames [t]

theorem operator_masked (m : Mask) (t : Tree) : (t.masked m).operator = t.operator := by
  rw [operator, child?_masked, operator]
  cases hc : t.child? .operator with
  | none => rfl
  | some c => simp [(retains_masked m).text_of_child? hc rfl]

end Tree

/-! ## The work for a masked node -/

/-- Hiding as a translation: the expressions of both sides are compared under the mask. -/
def Translation.hiding (m : Mask) : Translation where
  node := Tree.masked m
  before := Expr.masked m
  after := Expr.masked m

theorem Tree.reads_masked (m : Mask) (d : Declarations) : (Translation.hiding m).Reads d d where
  field := field_masked m
  kind := kind_masked m
  children := children_masked m
  names t := (retains_masked m).childTexts t rfl
  token t := (retains_masked m).hasToken t ":="
  identifiers := identifiers_masked m
  operator := operator_masked m
  typeOf := (retains_masked m).typeOf d
  other _ := rfl

namespace Meaning

variable {m : Mask} {d : Declarations} {s : State}

theorem valueTypes_masked (m : Mask) (s : State) (values : List Expr) (names : Nat) :
    valueTypes s (values.map (Expr.masked m)) names = valueTypes s values names := by
  match values with
  | [] => rfl
  | [single] => simp only [List.map_cons, List.map_nil, valueTypes, Expr.stripParens_masked, Expr.id_masked]
  | first :: second :: rest => simp [valueTypes]

theorem callResults_masked (m : Mask) (callee : Expr) :
    callResults d s (callee.masked m) = callResults d s callee := by
  rw [callResults, Expr.stripParens_masked, callResults]
  cases callee.stripParens <;> rfl

theorem packageOf?_masked (m : Mask) (table : TypeTable) (e : Expr) :
    packageOf? table (e.masked m) = packageOf? table e := by
  cases e <;> rfl

theorem selected?_masked (m : Mask) (operand : Expr) (name : String) :
    selected? d s (operand.masked m) name = selected? d s operand name := by
  rw [selected?, selected?, packageOf?_masked, Expr.id_masked]

theorem selectedUse?_masked (m : Mask) (operand : Expr) (name : String) :
    selectedUse? d s (operand.masked m) name = selectedUse? d s operand name := by
  rw [selectedUse?, selectedUse?, packageOf?_masked, selected?_masked]

theorem typeOf_masked (m : Mask) (e : Expr) : typeOf (e.masked m) = typeOf e := by
  rw [typeOf, typeOf, Expr.id_masked]

end Meaning

namespace Tree

variable {m : Mask} {d : Declarations} {t : Tree} {id fieldId : NodeId} {form : Form} {es : List Expr}

/-- What a node becomes depends on what is below it up to what is hidden. -/
theorem made_map (m : Mask) (t : Tree) (id fieldId : NodeId) (form : Form) (es : List Expr) :
    (t.made id fieldId form (es.map (Expr.masked m))).masked m =
      (t.made id fieldId form es).masked m := by
  have hother : (Expr.other id t.span t.kind.name (es.map (Expr.masked m))).masked m =
      (Expr.other id t.span t.kind.name es).masked m := by
    rw [Expr.masked, Expr.masked, ← Expr.maskedAll_eq, Expr.maskedAll_maskedAll]
  cases form with
  | paren =>
    rcases es with _ | ⟨inner, _ | ⟨next, rest⟩⟩
    · exact hother
    · simp [made, Expr.masked, Expr.masked_masked]
    · exact hother
  | binary =>
    rcases es with _ | ⟨left, _ | ⟨right, _ | ⟨next, rest⟩⟩⟩
    · exact hother
    · exact hother
    · simp [made, Expr.masked, Expr.masked_masked]
    · exact hother
  | select =>
    rcases es with _ | ⟨operand, _ | ⟨next, rest⟩⟩
    · exact hother
    · simp [made, Expr.masked, Expr.masked_masked]
    · exact hother
  | call =>
    rcases es with _ | ⟨callee, args⟩
    · exact hother
    · simp only [made, List.map_cons, Expr.masked, Expr.masked_masked, ← Expr.maskedAll_eq,
        Expr.maskedAll_maskedAll]
  | literal | name => rfl
  | typed | unary | other => exact hother

/-- And so do the notes on it. -/
theorem noted_map (m : Mask) (t : Tree) (id : NodeId) (form : Form) (es : List Expr) (s : State) :
    ((t.finish d id form (es.map (Expr.masked m))).run s).2 = ((t.finish d id form es).run s).2 := by
  cases form with
  | paren =>
    rcases es with _ | ⟨inner, _ | ⟨next, rest⟩⟩
    · rfl
    · simp only [List.map_cons, List.map_nil, finish, Meaning.typeOf_masked]
      rfl
    · rfl
  | binary =>
    rcases es with _ | ⟨left, _ | ⟨right, _ | ⟨next, rest⟩⟩⟩
    · rfl
    · rfl
    · simp only [List.map_cons, List.map_nil, finish, Meaning.typeOf_masked]
      rfl
    · rfl
  | select =>
    rcases es with _ | ⟨operand, _ | ⟨next, rest⟩⟩
    · rfl
    · simp only [List.map_cons, List.map_nil, finish, Meaning.selected?_masked,
        Meaning.selectedUse?_masked]
      rfl
    · rfl
  | call =>
    rcases es with _ | ⟨callee, args⟩
    · rfl
    · rw [List.map_cons]
      unfold finish
      rw [run_bind, run_bind, run_get, Meaning.callResults_masked]
      rcases Meaning.callResults d s callee with _ | ⟨single, _ | ⟨next, rest⟩⟩ <;> rfl
  | unary =>
    rcases es with _ | ⟨first, rest⟩
    · rfl
    · simp only [List.map_cons, finish, Meaning.typeOf_masked]
      rfl
  | literal | name | typed | other => rfl

/-- The texts that a form reads are not hidden. -/
structure Legible (t : Tree) (form : Form) : Prop where
  name : form = .name → t.isWording = false
  member : ∀ c, form = .select c → c.isWording = false

theorem legible_plan (d : Declarations) (t : Tree) : Legible t (t.plan d).1 where
  name h := by
    have hkind := (kind_of_plan d t).1 h
    exact isWording_of_kind (by simp [hkind]) (by simp [hkind])
  member c h := by
    unfold plan at h
    dsimp only at h
    split at h
    case h_6 =>
      split at h
      · rename_i operand member _ hmember
        cases h
        exact isWording_of_field (field_of_child? hmember) rfl
      · cases h
    all_goals first
      | cases h
      | split at h <;> cases h

theorem made_masked (h : Legible t form) :
    ((t.masked m).made id fieldId (form.translated (.hiding m)) es).masked m =
      (t.made id fieldId form es).masked m := by
  have hother : (Expr.other id (t.masked m).span (t.masked m).kind.name es).masked m =
      (Expr.other id t.span t.kind.name es).masked m := by
    simp [Expr.masked, span_masked]
  cases form with
  | paren =>
    rcases es with _ | ⟨inner, _ | ⟨next, rest⟩⟩
    · exact hother
    · simp [made, Form.translated, Expr.masked, span_masked]
    · exact hother
  | binary =>
    rcases es with _ | ⟨left, _ | ⟨right, _ | ⟨next, rest⟩⟩⟩
    · exact hother
    · exact hother
    · simp [made, Form.translated, Expr.masked, span_masked]
    · exact hother
  | select member =>
    rcases es with _ | ⟨operand, _ | ⟨next, rest⟩⟩
    · exact hother
    · simp [made, Form.translated, Translation.hiding, Expr.masked, span_masked,
        (retains_masked m).text _ (h.member _ rfl)]
    · exact hother
  | call =>
    rcases es with _ | ⟨callee, args⟩
    · exact hother
    · simp [made, Form.translated, Expr.masked, span_masked]
  | literal =>
    simp only [made, Form.translated, Expr.masked, span_masked, text_masked, Mask.span_span]
    split <;> simp
  | name => simp [made, Form.translated, Expr.masked, span_masked, (retains_masked m).text _ (h.name rfl)]
  | typed | unary | other => exact hother

theorem noted_masked (h : Legible t form) (s : State) :
    (((t.masked m).finish d id (form.translated (.hiding m)) es).run s).2 =
      ((t.finish d id form es).run s).2 := by
  cases form with
  | paren => rcases es with _ | ⟨inner, _ | ⟨next, rest⟩⟩ <;> rfl
  | binary => rcases es with _ | ⟨left, _ | ⟨right, _ | ⟨next, rest⟩⟩⟩ <;> rfl
  | select member =>
    rcases es with _ | ⟨operand, _ | ⟨next, rest⟩⟩
    · rfl
    · simp only [Form.translated, Translation.hiding, finish,
        (retains_masked m).text _ (h.member _ rfl)]
      rfl
    · rfl
  | call =>
    rcases es with _ | ⟨callee, args⟩
    · rfl
    · unfold Form.translated finish
      rw [run_bind, run_bind, run_get]
      rcases Meaning.callResults d s callee with _ | ⟨single, _ | ⟨next, rest⟩⟩ <;> rfl
  | name =>
    simp only [Form.translated, finish, (retains_masked m).text _ (h.name rfl)]
    rfl
  | unary => rcases es with _ | ⟨first, rest⟩ <;> rfl
  | typed type => cases type <;> rfl
  | literal | other => rfl

/-- A masked node is finished in the same way as the node. -/
theorem finish_masked (h : Legible t form) {es' : List Expr}
    (hes : es'.map (Expr.masked m) = es.map (Expr.masked m)) (s : State) :
    (((t.masked m).finish d id (form.translated (.hiding m)) es').run s).1.masked m =
        ((t.finish d id form es).run s).1.masked m ∧
      (((t.masked m).finish d id (form.translated (.hiding m)) es').run s).2 =
        ((t.finish d id form es).run s).2 := by
  rw [run_finish, run_finish, ← made_map, hes, made_map, made_masked h, ← noted_map, hes, noted_map,
    noted_masked h]
  exact ⟨rfl, rfl⟩

/-- **A masked node does what the node does.** -/
theorem faithful_masked (m : Mask) (d : Declarations) : (Translation.hiding m).Faithful d d where
  toReads := reads_masked m d
  next _ := rfl
  bump _ := rfl
  push _ := rfl
  pop _ := rfl
  declare s name type := by cases type <;> rfl
  values s names es es' hes := by
    have hes' : es'.map (Expr.masked m) = es.map (Expr.masked m) := hes
    have htypes : Meaning.valueTypes s es' names = Meaning.valueTypes s es names := by
      rw [← Meaning.valueTypes_masked m, hes', Meaning.valueTypes_masked]
    have hsame : (Option.map (Translation.hiding m).type : Option StaticType → _) = id :=
      Option.map_id
    rw [hsame, List.map_id]
    exact htypes
  finish s id t es es' hes := finish_masked (legible_plan d t) hes s

/-! ## Files -/

theorem does_of_work {d : Declarations} {t : Tree} (h : t.work d = []) :
    t.does d .statement = pure [] := by
  rw [does, visit_eq, h, Task.runAll]

/-- Package clauses and imports do nothing. -/
theorem does_heading {d : Declarations} {t : Tree} (h : t.isHeading = true) :
    t.does d .statement = pure [] := by
  refine does_of_work ?_
  rw [isHeading, Bool.or_eq_true, decide_eq_true_eq, decide_eq_true_eq] at h
  rcases h with hkind | hkind <;> rw [work, hkind]

/-- A file without what is hidden. Every text of package clauses and imports stays. -/
def fileMasked (m : Mask) (file : Tree) : Tree :=
  .node file.field file.kind (m.span file.span) file.text
    (file.children.map (changed (masked m.sparing) (masked m)))

theorem isNamed_changed (m : Mask) (t : Tree) :
    (changed (masked m.sparing) (masked m) t).isNamed = t.isNamed := by
  rw [isNamed, isNamed, (retains_masked m).kind_changed (retains_masked m.sparing)]

theorem parts_fileMasked (m : Mask) (file : Tree) :
    (file.fileMasked m).parts = file.parts.map (changed (masked m.sparing) (masked m)) := by
  rw [parts, fileMasked, children, List.filter_map]
  simp only [Function.comp_def, isNamed_changed, parts]

theorem declarations_fileMasked (m : Mask) (file : Tree) :
    (file.fileMasked m).declarations = file.declarations := by
  have hwords : ∀ t : Tree, (t.masked m.sparing).text = t.text := by
    intro t
    simp [text_masked, Mask.text, Mask.sparing]
  rw [declarations, parts_fileMasked, (retains_masked m).ofTrees (retains_masked m.sparing) hwords,
    declarations]

theorem ordered_fileMasked (m : Mask) (file : Tree) :
    (file.fileMasked m).ordered = file.ordered.map (changed (masked m.sparing) (masked m)) := by
  have hvariable : ∀ t : Tree,
      isVariableDeclaration (changed (masked m.sparing) (masked m) t) = isVariableDeclaration t := by
    intro t
    rw [isVariableDeclaration, isVariableDeclaration,
      (retains_masked m).kind_changed (retains_masked m.sparing)]
  rw [ordered, parts_fileMasked, ordered, List.map_append, List.filter_map, List.filter_map]
  simp only [Function.comp_def, hvariable]

/-- **A masked file does what the file does.** -/
theorem alike_visited (m : Mask) (file : Tree) :
    (file.fileMasked m).visited.1.map (Expr.masked m) = file.visited.1.map (Expr.masked m) ∧
      (file.fileMasked m).visited.2 = file.visited.2 := by
  have hchanged : ∀ t : Tree, (Translation.hiding m).Matches (t.does file.declarations .statement)
      ((changed (masked m.sparing) (masked m) t).does file.declarations .statement) := by
    intro t
    unfold changed
    split
    · rename_i hheading
      have hheading' : (t.masked m.sparing).isHeading = true := by
        rwa [isHeading, kind_masked, ← isHeading]
      rw [does_heading hheading, does_heading hheading']
      exact Translation.matches_nothing
    · exact (faithful_masked m file.declarations).does .statement t
  rw [visited_eq, visited_eq, declarations_fileMasked, ordered_fileMasked]
  exact Translation.Faithful.runTakeAll (fun t _ => hchanged t) {}

/-- **Files that do the same when they are masked do the same**, up to what is hidden. -/
theorem visited_of_masked {m : Mask} {file file' : Tree}
    (h : (file'.fileMasked m).visited = (file.fileMasked m).visited) :
    file'.visited.1.map (Expr.masked m) = file.visited.1.map (Expr.masked m) ∧
      file'.visited.2 = file.visited.2 := by
  obtain ⟨hes, hstate⟩ := alike_visited m file
  obtain ⟨hes', hstate'⟩ := alike_visited m file'
  rw [← hes, ← hes', ← hstate, ← hstate', h]
  exact ⟨rfl, rfl⟩

/-- Where places are hidden, expressions may change places when they are sorted. -/
theorem perm_lowerFile_masked {m : Mask} {file file' : Tree}
    (h : file'.visited.1.map (Expr.masked m) = file.visited.1.map (Expr.masked m)) :
    ((lowerFile file').1.map (Expr.masked m)).Perm ((lowerFile file).1.map (Expr.masked m)) := by
  refine ((perm_lowerFile file').map _).trans ?_
  rw [h]
  exact ((perm_lowerFile file).map _).symm

end Tree

end Go

end LogStyle
