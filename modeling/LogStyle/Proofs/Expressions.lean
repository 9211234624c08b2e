import LogStyle.Proofs.Statements

/-!
# Expressions of corresponding nodes

A node is given its identity first, then the nodes below it are lowered, and in the end the notes on
the node are written. Some of the work is put into this form before it is compared.

* `Meaning.node_literal`, `Meaning.node_call` and others: one kind of expression each.
* `Meaning.sim_lowerNode`: **corresponding nodes are corresponding expressions.**
-/

namespace LogStyle.Go

open Lower
open Declarations (Member)

namespace Meaning

variable {r : Rewrite} {d : Declarations} {m m' : Meaning} {ms ms' : List Meaning}
variable {id id' : NodeId} {s s' : State} {span span' : Span}

/-- What is recorded about a name where some blocks are open. -/
def nameNote (d : Declarations) (scopes : Scopes) (name : String) : Note :=
  match scopes.lookup name with
  | some (some type) => { use := some (.value type), type := some type }
  | some none => {}
  | none =>
    match d.imports.get? name with
    | some path => { use := some (.package path) }
    | none =>
      if d.functions.contains name then { use := some (.function (.function d.package name)) } else {}

theorem writes_resolveIdentifier (d : Declarations) (name : String) (h : s.note id = {}) :
    Writes id s (resolveIdentifier d id name) (nameNote d s.scopes name) := by
  have huse : ∀ referent, Writes id s (recordUse id referent) { use := some referent } :=
    fun referent => writes_recordUse referent h
  refine .get_bind ?_
  unfold nameNote
  rcases s.scopes.lookup name with _ | _ | type
  · rcases d.imports.get? name with _ | path
    · dsimp only
      split
      · exact huse _
      · exact writes_nothing h
    · exact huse _
  · exact writes_nothing h
  · have hvalue := huse (.value type)
    exact hvalue.then (writes_recordType type hvalue.note)

theorem node_literal {text : String} (h : Begun id id' s s') :
    Node id id' s s' (do recordType id .string; return .literal id span text)
      (do recordType id' .string; return .literal id' span' text) (Same r) := by
  refine .pure h (writes_recordType? (some .string) h.blank)
    (writes_recordType? (some .string) h.blank') fun w w' hagree => ?_
  exact .of_agree hagree rfl rfl rfl rfl rfl (by simp)

theorem node_ident {name : String} (h : Begun id id' s s') :
    Node id id' s s' (do resolveIdentifier d id name; return .ident id span name)
      (do resolveIdentifier d id' name; return .ident id' span' name) (Same r) := by
  have hleft := writes_resolveIdentifier d name h.blank
  have hright := writes_resolveIdentifier d name h.blank'
  rw [← h.paired.scopes] at hright
  refine .pure h hleft hright fun w w' hagree => ?_
  exact ⟨.ident hagree, .ident hagree, rfl, by simp⟩

/-- Corresponding expressions have the same type. -/
theorem type_of_same {lo lo' : NodeId} {e e' : Expr} (h : Same r ⟨lo, s⟩ ⟨lo', s'⟩ e e') :
    (s'.note e'.id).type = (s.note e.id).type :=
  (congrArg Note.type h.shape.agree.note).symm

theorem node_paren (h : Begun id id' s s') (hm : Sim r m m') :
    Node id id' s s'
      (do let inner ← m.lower; recordType? id (← typeOf inner); return .paren id span inner)
      (do let inner ← m'.lower; recordType? id' (← typeOf inner); return .paren id' span' inner)
      (Same r) := by
  refine .bind h (hm.lower s s' h.paired) stable_same
    fun _ _ t t' e e' ht _ _ he => .typeOf_bind ?_
  rw [type_of_same he]
  refine .pure ht (writes_recordType? _ ht.blank) (writes_recordType? _ ht.blank') ?_
  intro w w' hagree he
  exact ⟨.other hagree rfl rfl, he.inner, he.fragments, by simpa using he.calls⟩

theorem node_binary {left left' right right' : Meaning} (h : Begun id id' s s') (operator : String)
    (hleft : Sim r left left') (hright : Sim r right right') :
    Node id id' s s' (lowerBinary span id operator left right)
      (lowerBinary span' id' operator left' right') (Same r) := by
  refine .bind h (hleft.lower s s' h.paired) stable_same fun lo lo' t t' a a' ht _ _ ha => ?_
  refine .bind ht (hright.lower t t' ht.paired) stable_same fun _ _ u u' b b' hu hl hr hb => ?_
  -- the left operands still correspond when the right ones are lowered
  have ha' : Same r ⟨lo, u⟩ ⟨lo', u'⟩ a a' :=
    stable_same (Window.within_of_extends hl (Nat.le_refl _))
      (Window.within_of_extends hr (Nat.le_refl _)) ha
  refine .typeOf_bind (.typeOf_bind ?_)
  rw [type_of_same ha', type_of_same hb]
  refine .pure hu (writes_recordType? _ hu.blank) (writes_recordType? _ hu.blank') ?_
  intro w w' hagree hb ha
  refine .of_agree hagree rfl rfl rfl rfl ?_ (by simpa using List.rel_append ha.calls hb.calls)
  split
  · simp only [Message.fragments, ha.fragments, hb.fragments]
  · rfl

theorem node_other {kind : Kind} (h : Begun id id' s s') {children children' : Lower (List Expr)}
    (hchildren : Lower.Sim children children' (SameCalls r)) :
    Node id id' s s' (do return .other id span kind.name (← children))
      (do return .other id' span' kind.name (← children')) (Same r) := by
  refine .bind h (hchildren s s' h.paired) stable_sameCalls fun _ _ t t' es es' ht _ _ _ => ?_
  refine .blank ht fun w w' hagree hes => ?_
  refine .of_agree hagree rfl rfl rfl rfl rfl ?_
  rw [Expr.calls_other, Expr.calls_other]
  exact hes

/-- A node whose parts are kept, with a type that is written down. -/
theorem node_typed {kind : Kind} (h : Begun id id' s s') (hms : List.Forall₂ (Sim r) ms ms')
    (type : Option StaticType) :
    Node id id' s s' (do let e ← lowerOther kind span id ms; recordType? id type; return e)
      (do let e ← lowerOther kind span' id' ms'; recordType? id' type; return e) (Same r) := by
  have hnode : Node id id' s s'
      (do let es ← lowerParts ms; recordType? id type; return .other id span kind.name es)
      (do let es ← lowerParts ms'; recordType? id' type; return .other id' span' kind.name es)
      (Same r) := by
    refine .bind h (sim_lowerParts hms s s' h.paired) stable_same.forall₂
      fun _ _ t t' es es' ht _ _ _ => ?_
    refine .pure ht (writes_recordType? _ ht.blank) (writes_recordType? _ ht.blank') ?_
    intro w w' hagree hes
    refine .of_agree hagree rfl rfl rfl rfl rfl ?_
    rw [Expr.calls_other, Expr.calls_other]
    exact sameCalls_of_same hes
  exact ⟨hnode.paired, hnode.left, hnode.right, hnode.related⟩

theorem node_unary (h : Begun id id' s s') (hms : List.Forall₂ (Sim r) ms ms') (operator : String) :
    Node id id' s s' (lowerUnary span id operator ms) (lowerUnary span' id' operator ms') (Same r) := by
  refine .bind h (sim_lowerParts hms s s' h.paired) stable_same.forall₂
    fun _ _ t t' es es' ht _ _ hes => ?_
  have hrest : ∀ type, Node id id' t t'
      (do recordType? id (unaryType operator type); return .other id span Kind.unaryExpression.name es)
      (do recordType? id' (unaryType operator type)
          return .other id' span' Kind.unaryExpression.name es')
      fun w w' e e' => List.Forall₂ (Same r w w') es es' → Same r w w' e e' := by
    intro type
    refine .pure ht (writes_recordType? _ ht.blank) (writes_recordType? _ ht.blank') ?_
    intro w w' hagree hes
    refine .of_agree hagree rfl rfl rfl rfl rfl ?_
    rw [Expr.calls_other, Expr.calls_other]
    exact sameCalls_of_same hes
  cases hes with
  | nil => exact ⟨(hrest none).paired, (hrest none).left, (hrest none).right, (hrest none).related⟩
  | cons he _ =>
    refine .typeOf_bind ?_
    rw [type_of_same he]
    exact hrest _

theorem callResults_eq_nil {e : Expr} (h : e.stripParens.isName = false) :
    callResults d s e = [] := by
  unfold callResults
  generalize e.stripParens = x at h
  cases x <;> first | rfl | cases h

/-- Corresponding callees give the same results. -/
theorem callResults_of_same {lo lo' : NodeId} {e e' : Expr} (hscopes : s.scopes = s'.scopes)
    (h : Same r ⟨lo, s⟩ ⟨lo', s'⟩ e e') : callResults d s' e' = callResults d s e := by
  have huse : ∀ {i i'}, Agree ⟨lo, s⟩ ⟨lo', s'⟩ i i' → s'.table.uses.get? i' = s.table.uses.get? i :=
    fun h => (congrArg Note.use h.note).symm
  have hselection : ∀ {i i'}, Agree ⟨lo, s⟩ ⟨lo', s'⟩ i i' →
      s'.table.selections.get? i' = s.table.selections.get? i :=
    fun h => (congrArg Note.selection h.note).symm
  -- only the call of a name has results
  cases hx : e.stripParens.isName with
  | false =>
    have hx' : e'.stripParens.isName = false := by
      rw [← hx]
      exact h.inner.isName
    rw [callResults_eq_nil hx, callResults_eq_nil hx']
  | true =>
    have hshape := h.inner
    unfold callResults
    generalize e.stripParens = x at hshape hx
    generalize e'.stripParens = x' at hshape
    cases hshape with
    | ident h => simp only [hscopes]
    | select h hfield => simp only [huse hfield, hselection h]
    | other h hname => rw [hname] at hx; cases hx

/-- The rest of a call, when its parts are there. -/
theorem node_called {callee callee' : Expr} {args args' : List Expr} (results : List StaticType)
    (h : Begun id id' s s') :
    Node id id' s s'
      (do
        match results with
        | [single] => recordType id single
        | _ => pure ()
        if !results.isEmpty then recordResults id results
        return .call id span callee args)
      (do
        match results with
        | [single] => recordType id' single
        | _ => pure ()
        if !results.isEmpty then recordResults id' results
        return .call id' span' callee' args')
      fun w w' e e' => Same r w w' callee callee' → List.Forall₂ (Argument r w w') args args' →
        SameCalls r w w' args args' → Same r w w' e e' := by
  have hpure : ∀ {x x' : Lower Unit} {note : Note}, Writes id s x note → Writes id' s' x' note →
      Node id id' s s' (x >>= fun _ => pure (.call id span callee args))
        (x' >>= fun _ => pure (.call id' span' callee' args'))
        fun w w' e e' => Same r w w' callee callee' → List.Forall₂ (Argument r w w') args args' →
          SameCalls r w w' args args' → Same r w w' e e' := by
    intro x x' note hx hx'
    refine .pure h hx hx' fun w w' hagree hcallee hargs hcalls => ?_
    refine .of_agree hagree rfl rfl rfl rfl rfl ?_
    rw [Expr.calls_call, Expr.calls_call]
    exact .cons (.call hcallee.shape hargs) (List.rel_append hcallee.calls hcalls)
  -- a single result is the type of the call as well
  rcases results with _ | ⟨single, _ | ⟨next, rest⟩⟩
  · have hnode := hpure (writes_nothing h.blank) (writes_nothing h.blank')
    exact ⟨hnode.paired, hnode.left, hnode.right, hnode.related⟩
  · have hsingle : ∀ {id : NodeId} {s : State}, s.note id = {} →
        Writes id s (recordType? id (some single) >>= fun _ => recordResults id [single])
          { type := some single, results := some [single] } := by
      intro id s hs
      have htype := writes_recordType? (some single) hs
      exact htype.then (writes_recordResults [single] htype.note)
    have hnode := hpure (hsingle h.blank) (hsingle h.blank')
    exact ⟨hnode.paired, hnode.left, hnode.right, hnode.related⟩
  · have hseveral : ∀ {id : NodeId} {s : State} (types : List StaticType), s.note id = {} →
        Writes id s (recordResults id types) { results := some types } :=
      fun types hs => writes_recordResults types hs
    have hnode := hpure (hseveral (single :: next :: rest) h.blank) (hseveral _ h.blank')
    exact ⟨hnode.paired, hnode.left, hnode.right, hnode.related⟩

/-- The arguments among the parts of a call. -/
def argumentsIn (ms : List Meaning) : Lower (List Expr) :=
  match find? ms .arguments with
  | some m => m.arguments
  | none => return []

theorem sim_argumentsIn (h : List.Forall₂ (Sim r) ms ms') :
    Lower.Sim (argumentsIn ms) (argumentsIn ms') fun w w' es es' =>
      List.Forall₂ (Argument r w w') es es' ∧ SameCalls r w w' es es' := by
  unfold argumentsIn
  rcases find?_sim h .arguments with ⟨hm, hm'⟩ | ⟨m, m', hm, hm', hsim, hrole⟩
  · rw [hm, hm']
    exact fun s s' hp => .pure hp ⟨.nil, .nil⟩
  · rw [hm, hm']
    exact hsim.arguments hrole

theorem lowerCall_eq (function : Meaning) (ms : List Meaning) :
    lowerCall d span id function (find? ms .arguments) = do
      let callee ← function.lower
      let args ← argumentsIn ms
      let results := callResults d (← get) callee
      match results with
      | [single] => recordType id single
      | _ => pure ()
      if !results.isEmpty then recordResults id results
      return .call id span callee args := by
  unfold lowerCall argumentsIn
  cases find? ms .arguments <;> rfl

theorem node_call {function function' : Meaning} (h : Begun id id' s s')
    (hms : List.Forall₂ (Sim r) ms ms') (hfunction : Sim r function function') :
    Node id id' s s' (lowerCall d span id function (find? ms .arguments))
      (lowerCall d span' id' function' (find? ms' .arguments)) (Same r) := by
  rw [lowerCall_eq, lowerCall_eq]
  refine .bind h (hfunction.lower s s' h.paired) stable_same fun lo lo' t t' e e' ht _ _ he => ?_
  refine .bind ht (sim_argumentsIn hms t t' ht.paired) stable_arguments
    fun _ _ u u' args args' hu hl hr _ => .get_bind ?_
  -- the callees still correspond when the arguments are lowered
  have he' : Same r ⟨lo, u⟩ ⟨lo', u'⟩ e e' :=
    stable_same (Window.within_of_extends hl (Nat.le_refl _))
      (Window.within_of_extends hr (Nat.le_refl _)) he
  rw [callResults_of_same hu.paired.scopes he']
  exact (node_called _ hu).imp fun w w' _ _ h hargs he => h he hargs.1 hargs.2

/-- The package that a name stands for is the same in corresponding expressions. -/
theorem packageOf?_of_same {lo lo' : NodeId} {e e' : Expr} (h : Same r ⟨lo, s⟩ ⟨lo', s'⟩ e e') :
    packageOf? s'.table e' = packageOf? s.table e := by
  have hnone : ∀ {table : TypeTable} {e : Expr}, e.isName = false → packageOf? table e = none := by
    intro table e he
    cases e <;> first | rfl | cases he
  obtain ⟨hshape, -, -, -⟩ := h
  cases hshape with
  | @ident i i' _ _ _ h =>
    have huse : s'.table.uses.get? i' = s.table.uses.get? i := (congrArg Note.use h.note).symm
    simp only [packageOf?, huse]
  | select => rfl
  | other _ hname hname' => rw [hnone hname, hnone hname']

/-- The member that is selected from a value, if it is one. -/
def selected? (d : Declarations) (s : State) (operand : Expr) (name : String) : Option Member :=
  match packageOf? s.table operand with
  | some _ => none
  | none => (s.note operand.id).type.bind fun type => d.member? type name

/-- What a selected name refers to. -/
def selectedUse? (d : Declarations) (s : State) (operand : Expr) (name : String) :
    Option Referent :=
  match packageOf? s.table operand with
  | some package => some (.function (.function package name))
  | none =>
    match selected? d s operand name with
    | some (.field type) => some (.value type)
    | _ => none

/-- Records what a name refers to if that is known. -/
def recordUse? (id : NodeId) : Option Referent → Lower Unit
  | some referent => recordUse id referent
  | none => pure ()

/-- A new identity for a selected name, with what the name refers to. -/
def selectedName (use : Option Referent) : Lower NodeId := do
  let id ← fresh
  recordUse? id use
  return id

/-- Records what a selector selects. -/
def recordSelected (id : NodeId) : Option Member → Lower Unit
  | some (.field type) => recordType id type
  | some (.method f) => recordSelection id (.function f)
  | none => pure ()

theorem lowerSelector_eq (operand : Meaning) (member : Tree) :
    lowerSelector d span id operand member = do
      let operand ← operand.lower
      let state ← get
      let fieldId ← selectedName (selectedUse? d state operand member.text)
      recordSelected id (selected? d state operand member.text)
      return .select id span operand ⟨fieldId, member.text, member.span⟩ := by
  unfold lowerSelector
  refine bind_congr fun e => funext fun s => ?_
  -- handing out an identity changes nothing that is looked up
  have htable : s.bump.table = s.table := rfl
  have htype : (s.bump.note e.id).type = (s.note e.id).type := rfl
  change StateT.run _ s = StateT.run _ s
  simp only [run_bind, run_fresh, run_get, htable, selectedName, selectedUse?, selected?]
  rcases packageOf? s.table e with _ | package
  · simp only [run_bind, run_typeOf, htype]
    rcases (s.note e.id).type with _ | type
    · rfl
    · simp only [Option.bind_some]
      rcases d.member? type member.text with _ | _ | _ <;> rfl
  · rfl

theorem writes_recordUse? (use : Option Referent) (h : s.note id = {}) :
    Writes id s (recordUse? id use) { use := use } := by
  cases use with
  | none => exact writes_nothing h
  | some referent => exact writes_recordUse referent h

theorem simAt_selectedName (h : State.Paired s s') (use : Option Referent) :
    SimAt s s' (selectedName use) (selectedName use) Agree := by
  have hb := begun_fresh h
  refine Node.simAt (.pure hb (writes_recordUse? use hb.blank) (writes_recordUse? use hb.blank') ?_)
  exact fun _ _ hagree => hagree

/-- What is recorded about a selector. -/
def selectedNote : Option Member → Note
  | some (.field type) => { type := some type }
  | some (.method f) => { selection := some (.function f) }
  | none => {}

theorem writes_recordSelected (selected : Option Member) (h : s.note id = {}) :
    Writes id s (recordSelected id selected) (selectedNote selected) := by
  rcases selected with _ | type | f
  · exact writes_nothing h
  · exact writes_recordType? (some type) h
  · exact writes_recordSelection (.function f) h

theorem node_selector {operand operand' : Meaning} {member member' : Tree} (h : Begun id id' s s')
    (hoperand : Sim r operand operand') (hmember : member'.text = member.text) :
    Node id id' s s' (lowerSelector d span id operand member)
      (lowerSelector d span' id' operand' member') (Same r) := by
  rw [lowerSelector_eq, lowerSelector_eq]
  refine .bind h (hoperand.lower s s' h.paired) stable_same fun _ _ t t' e e' ht _ _ he => .get_bind ?_
  have hselected : selected? d t' e' member'.text = selected? d t e member.text := by
    rw [selected?, selected?, packageOf?_of_same he, type_of_same he, hmember]
  have huse : selectedUse? d t' e' member'.text = selectedUse? d t e member.text := by
    rw [selectedUse?, selectedUse?, packageOf?_of_same he, hselected, hmember]
  rw [hselected, huse]
  refine .bind ht (simAt_selectedName ht.paired _) (fun _ _ _ _ _ _ hw hw' h => h.mono hw hw')
    fun _ _ u u' i i' hu _ _ _ => ?_
  refine .pure hu (writes_recordSelected _ hu.blank) (writes_recordSelected _ hu.blank') ?_
  intro w w' hagree hname he
  exact ⟨.select hagree hname, .select hagree hname, rfl, by simpa using he.calls⟩

theorem operatorOf_sim (h : List.Forall₂ (Sim r) ms ms') : operatorOf ms' = operatorOf ms := by
  unfold operatorOf
  rcases find?_sim h .operator with ⟨hm, hm'⟩ | ⟨m, m', hm, hm', hsim, -⟩
  · rw [hm, hm']
  · rw [hm, hm', Option.map_some, Option.map_some, hsim.text]

/-- **Corresponding nodes are corresponding expressions**, if the nodes below them correspond. -/
theorem sim_lowerNode {t t' : Tree} (ht : t'.skeleton = t.skeleton)
    (h : List.Forall₂ (Sim r) ms ms') :
    Lower.Sim (lowerNode d t ms) (lowerNode d t' ms') (Same r) := by
  have hkind := Tree.kind_eq ht
  have htext : t'.text = t.text := by
    rw [← Tree.text_skeleton, ht, Tree.text_skeleton]
  have hparts := (sim_lowerParts h).imp fun _ _ _ _ hes => sameCalls_of_same hes
  intro s s' hp
  have hb := begun_fresh hp
  refine Node.simAt ?_
  dsimp only
  rw [hkind, htext, operatorOf_sim h, typeIn_sim h]
  -- nodes that lack a part they should have are kept with the parts they have
  have hother : Node s.next s'.next s.bump s'.bump (lowerOther t.kind t.span s.next ms)
      (lowerOther t.kind t'.span s'.next ms') (Same r) := node_other hb hparts
  generalize t.kind = kind at hother ⊢
  cases kind
  case interpretedStringLiteral => exact node_literal hb
  case rawStringLiteral => exact node_literal hb
  case identifier => exact node_ident hb
  case parenthesizedExpression =>
    have hnamed := forall₂_named h
    dsimp only
    revert hnamed
    generalize named ms = l
    generalize named ms' = l'
    intro hnamed
    cases hnamed with
    | nil => exact hother
    | cons hm _ => exact node_paren hb hm
  case binaryExpression =>
    rcases find?_sim h .left with ⟨hm, hm'⟩ | ⟨left, left', hm, hm', hleft, -⟩
    · simp only [hm, hm']
      exact hother
    · rcases find?_sim h .right with ⟨hn, hn'⟩ | ⟨right, right', hn, hn', hright, -⟩
      · simp only [hm, hm', hn, hn']
        exact hother
      · simp only [hm, hm', hn, hn']
        exact node_binary hb _ hleft hright
  case selectorExpression =>
    rcases find?_sim h .operand with ⟨hm, hm'⟩ | ⟨operand, operand', hm, hm', hoperand, -⟩
    · simp only [hm, hm']
      exact hother
    · rcases find?_sim h .member with ⟨hn, hn'⟩ | ⟨member, member', hn, hn', hmember, -⟩
      · simp only [hm, hm', hn, hn']
        exact hother
      · simp only [hm, hm', hn, hn']
        exact node_selector hb hoperand hmember.text
  case callExpression =>
    rcases find?_sim h .function with ⟨hm, hm'⟩ | ⟨function, function', hm, hm', hfunction, -⟩
    · simp only [hm, hm']
      exact hother
    · simp only [hm, hm']
      exact node_call hb h hfunction
  case typeConversionExpression => exact node_typed hb h _
  case typeAssertionExpression => exact node_typed hb h _
  case compositeLiteral => exact node_typed hb h _
  case unaryExpression => exact node_unary hb h _
  case funcLiteral => exact node_other hb (sim_visitFunction h)
  all_goals exact hother

end Meaning

end LogStyle.Go
