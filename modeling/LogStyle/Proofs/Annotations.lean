import LogStyle.Proofs.Coverage
import LogStyle.Proofs.Promotion
import LogStyle.Proofs.Scoping
import LogStyle.Proofs.Writing

/-!
# The annotations of a file

Each node of an expression has an identity of its own, and so has each selected name. What is recorded
under these identities fits together, so that the function that a call is taken to call does not depend
on what is looked at first. There is one exception: where a file imports a package under the name of
one of its functions, the results of that function are found, but the name stands for the package.

* `Expr.idsOfAll`: the identities in some expressions.
* `Tree.numbers_does`: **identities are handed out one after the other, and each of them is put to use.**
* `TypeTable.WellFormed`: how the annotations of a file fit together.
* `Asked`, `Meaning.asked?`: the function that is asked for the results of a call.
* `Meaning.callResults_eq`: the results of a call are those of the function that is asked.
* `annotations_wellFormed`: **the annotations of a file fit together, and a call is taken to call the
  function that is asked for its results, unless an import has the name of the function.**
-/

namespace LogStyle.Expr

/-- The identities in some expressions, with those of selected names. -/
def idsOfAll (es : List Expr) : List NodeId := (nodesOfAll es).flatMap own

theorem nodesOfAll_append (es fs : List Expr) :
    nodesOfAll (es ++ fs) = nodesOfAll es ++ nodesOfAll fs := by
  induction es with
  | nil => rfl
  | cons e es ih => rw [List.cons_append, nodesOfAll, ih, nodesOfAll, List.append_assoc]

theorem idsOfAll_append (es fs : List Expr) :
    idsOfAll (es ++ fs) = idsOfAll es ++ idsOfAll fs := by
  rw [idsOfAll, nodesOfAll_append, List.flatMap_append, idsOfAll, idsOfAll]

theorem idsOfAll_singleton (e : Expr) : idsOfAll [e] = e.own ++ idsOfAll e.parts := by
  rw [idsOfAll, nodesOfAll, nodesOfAll, List.append_nil, nodes_eq, List.flatMap_cons, idsOfAll]

theorem nodesOfAll_eq_flatMap (es : List Expr) : nodesOfAll es = es.flatMap nodes := by
  induction es with
  | nil => rfl
  | cons e es ih => rw [nodesOfAll, ih, List.flatMap_cons]

theorem perm_idsOfAll {es fs : List Expr} (h : es.Perm fs) : (idsOfAll es).Perm (idsOfAll fs) := by
  rw [idsOfAll, idsOfAll, nodesOfAll_eq_flatMap, nodesOfAll_eq_flatMap]
  exact (h.flatMap_right _).flatMap_right _

/-- What is left without parentheses has none. -/
theorem stripParens_ne_paren (e : Expr) {id : NodeId} {span : Span} {inner : Expr} :
    e.stripParens ≠ paren id span inner := by
  induction e using stripParens.induct with
  | case1 _ _ e ih => rwa [stripParens]
  | case2 e h =>
    cases e with
    | paren id span inner => exact absurd rfl (h id span inner)
    | _ => simp [stripParens]

end LogStyle.Expr

namespace LogStyle.Go

open Lower

/-! ## Identities -/

namespace Lower

/-- Work that hands out identities one after the other, and puts each of them to use once. -/
def Numbers (x : Lower (List Expr)) : Prop :=
  ∀ s, ∃ n, (x.run s).2.next = s.next + n ∧
    (Expr.idsOfAll (x.run s).1).Perm (List.range' s.next n)

theorem composes_numbers : Composes Numbers where
  nothing s := ⟨0, rfl, .nil⟩
  append {x y} hx hy s := by
    obtain ⟨n, hnext, hids⟩ := hx s
    obtain ⟨m, hnext', hids'⟩ := hy (x.run s).2
    rw [hnext] at hnext' hids'
    refine ⟨n + m, hnext'.trans (Nat.add_assoc _ _ _), ?_⟩
    have hrange : List.range' s.next (n + m) =
        List.range' s.next n ++ List.range' (s.next + n) m := by
      rw [List.range'_append_1]
    rw [hrange]
    simp only [run_bind, run_pure, Expr.idsOfAll_append]
    exact hids.append hids'
  inBlock h s := h { s with scopes := s.scopes.push }
  declares g h hy s := by
    rw [hy]
    exact h s

end Lower

namespace Tree

variable {d : Declarations} {t : Tree} {id : NodeId} {form : Form} {es : List Expr} {s : State}

/-- The expression that is made in the end has the expressions below it as its parts. -/
theorem parts_made {fieldId : NodeId} (hleaf : form = .literal ∨ form = .name → es = []) :
    (t.made id fieldId form es).parts = es := by
  cases form with
  | literal => exact (hleaf (.inl rfl)).symm
  | name => exact (hleaf (.inr rfl)).symm
  | paren => rcases es with _ | ⟨inner, _ | ⟨next, rest⟩⟩ <;> rfl
  | binary => rcases es with _ | ⟨left, _ | ⟨right, _ | ⟨next, rest⟩⟩⟩ <;> rfl
  | select => rcases es with _ | ⟨operand, _ | ⟨next, rest⟩⟩ <;> rfl
  | call => rcases es with _ | ⟨callee, args⟩ <;> rfl
  | typed | unary | other => rfl

/-- In the end a node is given the identity that it has, and a selected name one more. -/
theorem own_finish (d : Declarations) (t : Tree) (id : NodeId) (form : Form) (es : List Expr)
    (s : State) : ∃ n, ((t.finish d id form es).run s).2.next = s.next + n ∧
      ((t.finish d id form es).run s).1.own = id :: List.range' s.next n := by
  have htype : ∀ (type : Option StaticType) (s : State),
      ((recordType? id type).run s).2.next = s.next := by
    intro type s
    cases type <;> rfl
  cases form with
  | name =>
    refine ⟨0, ?_, rfl⟩
    simp only [finish, Meaning.resolveIdentifier, run_bind, run_get]
    rcases s.scopes.lookup t.text with _ | _ | type
    · cases d.imports.get? t.text with
      | some path => rfl
      | none => cases d.functions.contains t.text <;> rfl
    · rfl
    · rfl
  | paren =>
    refine ⟨0, ?_, ?_⟩ <;> rcases es with _ | ⟨inner, _ | ⟨next, rest⟩⟩
    all_goals first
      | rfl
      | exact htype _ s
  | binary operator =>
    refine ⟨0, ?_, ?_⟩ <;> rcases es with _ | ⟨left, _ | ⟨right, _ | ⟨next, rest⟩⟩⟩
    all_goals first
      | rfl
      | exact htype _ s
  | select member =>
    rcases es with _ | ⟨operand, _ | ⟨next, rest⟩⟩
    · exact ⟨0, rfl, rfl⟩
    · refine ⟨1, ?_, rfl⟩
      simp only [finish, run_bind, run_get]
      generalize Meaning.selectedUse? d s operand member.text = use
      rcases Meaning.selected? d s operand member.text with _ | _ | _ <;> cases use <;> rfl
    · exact ⟨0, rfl, rfl⟩
  | call =>
    refine ⟨0, ?_, ?_⟩
    · rcases es with _ | ⟨callee, args⟩
      · rfl
      · unfold finish
        rw [run_bind, run_get]
        rcases Meaning.callResults d s callee with _ | ⟨single, _ | ⟨next, rest⟩⟩ <;> rfl
    · rw [run_finish]
      rcases es with _ | ⟨callee, args⟩ <;> rfl
  | unary operator =>
    refine ⟨0, ?_, ?_⟩ <;> rcases es with _ | ⟨first, rest⟩
    all_goals first
      | rfl
      | exact htype _ s
  | typed type => exact ⟨0, htype type s, rfl⟩
  | literal | other => exact ⟨0, rfl, rfl⟩

/-- **Identities are handed out one after the other, and each of them is put to use.** -/
theorem numbers_does (d : Declarations) : ∀ role (t : Tree), Numbers (t.does d role) := by
  refine does_induction d fun role t ih => ?_
  have htasks := Task.runAll_of_taken composes_numbers (t.tasks d role) ih
  cases role with
  | statement =>
    rw [does, visit_eq]
    exact htasks
  | expression =>
    intro s
    have hrun : (t.does d .expression).run s =
        ([((t.meaning d).lower.run s).1], ((t.meaning d).lower.run s).2) := rfl
    obtain ⟨n, hnext, hids⟩ : ∃ n, (t.prepared d s).2.next = s.next + 1 + n ∧
        (Expr.idsOfAll (t.prepared d s).1).Perm (List.range' (s.next + 1) n) := htasks s.bump
    obtain ⟨m, hnext', hown⟩ := own_finish d t s.next (t.plan d).1 (t.prepared d s).1 (t.prepared d s).2
    have hparts : ((t.finish d s.next (t.plan d).1 (t.prepared d s).1).run (t.prepared d s).2).1.parts =
        (t.prepared d s).1 := by
      rw [run_finish]
      refine parts_made fun hform => ?_
      rw [prepared, plan_leaf hform]
      rfl
    rw [hrun, run_lower]
    refine ⟨1 + n + m, ?_, ?_⟩
    · simp only [hnext', hnext, Nat.add_assoc]
    · rw [Expr.idsOfAll_singleton, hown, hparts, hnext]
      -- the node comes first, then what is below it, and a selected name in the end
      have hrange : List.range' s.next (1 + n + m) =
          s.next :: (List.range' (s.next + 1) n ++ List.range' (s.next + 1 + n) m) := by
        rw [List.range'_append_1, Nat.add_assoc, Nat.add_comm 1, List.range'_succ]
      rw [hrange, List.cons_append]
      exact .cons _ ((List.perm_append_comm).trans (hids.append_right _))

/-- The identities in a file are the first numbers, each of them once. -/
theorem perm_ids (file : Tree) :
    (Expr.idsOfAll (lowerFile file).1).Perm (List.range file.visited.2.next) := by
  have hnumbers : Numbers (Task.runAll file.declarations (Task.takeAll .statement file.ordered)) :=
    Task.runAll_of_taken composes_numbers _ fun role c _ => numbers_does file.declarations role c
  obtain ⟨n, hnext, hids⟩ := hnumbers {}
  rw [← visited_eq] at hnext hids
  have hfirst : List.range' (State.next {}) n = List.range file.visited.2.next := by
    rw [hnext, List.range_eq_range']
    exact congrArg (List.range' 0) (Nat.zero_add n).symm
  rw [hfirst] at hids
  exact (Expr.perm_idsOfAll (List.mergeSort_perm _ _)).trans hids

end Tree

/-! ## How annotations fit together -/

/-- The annotations of some expressions fit together. -/
structure WellFormed (es : List Expr) (table : TypeTable) : Prop where
  /-- The identities are the first numbers, each of them once. -/
  numbered : (Expr.idsOfAll es).Perm (List.range (Expr.idsOfAll es).length)
  /-- Nothing else is annotated. -/
  keys : ∀ i, i ∈ table.uses.keys ∨ i ∈ table.selections.keys ∨ i ∈ table.types.keys →
    i ∈ Expr.idsOfAll es
  /-- A name stands for a value exactly if it has a type, the type of the value. -/
  ident : ∀ id span name, .ident id span name ∈ Expr.nodesOfAll es → ∀ type,
    table.uses.get? id = some (.value type) ↔ table.types.get? id = some type
  paren : ∀ id span inner, .paren id span inner ∈ Expr.nodesOfAll es → ∀ type,
    table.types.get? id = some type ↔ table.types.get? inner.id = some type
  /-- Either the selector or the selected name is annotated, and a field has the type of its value. -/
  select : ∀ id span operand field, .select id span operand field ∈ Expr.nodesOfAll es →
    (table.selections.get? id = none ∨ table.uses.get? field.id = none) ∧
      ∀ type, table.types.get? id = some type ↔ table.uses.get? field.id = some (.value type)

/-- What is recorded about a name: a value with its type, or no type at all. -/
theorem Meaning.nameNote_value (d : Declarations) (scopes : Scopes) (name : String)
    (type : StaticType) : (nameNote d scopes name).use = some (.value type) ↔
      (nameNote d scopes name).type = some type := by
  rcases nameNote_cases d scopes name with ⟨other, hnote⟩ | hnote | ⟨path, -, -, hnote⟩ | hnote
  all_goals simp [hnote]

/-- What is recorded about a selector and the selected name. -/
theorem Meaning.selected_value (d : Declarations) (s : State) (operand : Expr) (name : String) :
    ((selectedNote (selected? d s operand name)).selection = none ∨
      selectedUse? d s operand name = none) ∧
    ∀ type, (selectedNote (selected? d s operand name)).type = some type ↔
      selectedUse? d s operand name = some (.value type) := by
  unfold selectedUse? selected?
  cases hpackage : packageOf? s.table operand with
  | some package => simp [selectedNote]
  | none =>
    rcases (s.note operand.id).type.bind fun type => d.member? type name with _ | type | f
    all_goals simp [selectedNote]

theorem wellFormed_lowerFile (file : Tree) : WellFormed (lowerFile file).1 (lowerFile file).2 where
  numbered := by
    have hids := Tree.perm_ids file
    have hlength := hids.length_eq
    rw [List.length_range] at hlength
    rwa [hlength]
  keys i hi := by
    have hblank : file.visited.2.Blank := by
      rw [Tree.visited_eq]
      exact (Tree.keeps_tasks file.declarations _ {} fun _ _ => rfl).blank
    rw [(Tree.perm_ids file).mem_iff, List.mem_range]
    by_contra hge
    -- nothing is known about nodes to come
    have hnone := hblank i (Nat.le_of_not_lt hge)
    have huse : (lowerFile file).2.uses.get? i = none := congrArg Note.use hnone
    have hselection : (lowerFile file).2.selections.get? i = none := congrArg Note.selection hnone
    have htype : (lowerFile file).2.types.get? i = none := congrArg Note.type hnone
    simp [Bindings.mem_keys, huse, hselection, htype] at hi
  ident id span name hnode type := by
    obtain ⟨scopes, hnoted⟩ := exists_noted hnode
    have huse : (lowerFile file).2.uses.get? id = _ := congrArg Note.use hnoted
    have htype : (lowerFile file).2.types.get? id = _ := congrArg Note.type hnoted
    rw [huse, htype]
    exact Meaning.nameNote_value file.declarations scopes name type
  paren id span inner hnode type := by
    obtain ⟨scopes, hnoted⟩ := exists_noted hnode
    have htype : (lowerFile file).2.types.get? id = (lowerFile file).2.types.get? inner.id :=
      congrArg Note.type hnoted
    rw [htype]
  select id span operand field hnode := by
    obtain ⟨scopes, hselector, hfield⟩ := exists_noted hnode
    have hselection : (lowerFile file).2.selections.get? id = _ := congrArg Note.selection hselector
    have htype : (lowerFile file).2.types.get? id = _ := congrArg Note.type hselector
    have huse : (lowerFile file).2.uses.get? field.id = _ := congrArg Note.use hfield
    rw [hselection, htype, huse]
    exact Meaning.selected_value file.declarations file.visited.2 operand field.name

/-! ## The function that is asked -/

/-- A function that is asked for the results of a call. -/
inductive Asked where
  /-- A function of the file, by its name. -/
  | own (name : String)
  /-- A function of an imported package. -/
  | foreign (f : FunctionId)
  | method (package receiver name : String)
  deriving DecidableEq

namespace Asked

def function (d : Declarations) : Asked → FunctionId
  | own name => .function d.package name
  | foreign f => f
  | method package receiver name => .method package receiver name

/-- The results of a function, none if they are not known. -/
def results (d : Declarations) : Asked → List StaticType
  | own name => (d.functions.get? name).getD []
  | foreign f => (f.package.bind fun package => Known.functionResults? package f.name).getD []
  | method package receiver name =>
    if package = d.package then (d.methods.get? (receiver, name)).getD []
    else (Known.methodResults? package receiver name).getD []

end Asked

namespace Meaning

variable {d : Declarations} {s : State} {callee : Expr}

/-- The function that is asked for the results of a call. The use of a selected name goes before what
is selected. -/
def asked? (d : Declarations) (s : State) (callee : Expr) : Option Asked :=
  match callee.stripParens with
  | .ident _ _ name =>
    if (s.scopes.lookup name).isSome then none
    else if d.functions.contains name then some (.own name) else none
  | .select id _ _ field =>
    match s.table.uses.get? field.id with
    | some (.function f) => some (.foreign f)
    | _ =>
      match s.table.selections.get? id with
      | some (.function ⟨some package, some receiver, name⟩) => some (.method package receiver name)
      | _ => none
  | _ => none

/-- The type to which a call converts, if its callee is the name of a type. -/
def conversion (d : Declarations) (s : State) (callee : Expr) : List StaticType :=
  match callee.stripParens with
  | .ident _ _ name =>
    if (s.scopes.lookup name).isSome then []
    else match d.aliases.get? name with
      | some type => [type]
      | none =>
        if d.types.contains name then [d.localNamed name]
        else if name = "string" then [.string]
        else []
  | _ => []

/-- **The results of a call are those of the function that is asked**, and a call that asks no function
may be a conversion. -/
theorem callResults_eq (d : Declarations) (s : State) (callee : Expr) :
    callResults d s callee =
      match asked? d s callee with
      | some asked => asked.results d
      | none => conversion d s callee := by
  unfold callResults asked? conversion
  cases callee.stripParens with
  | ident id span name =>
    dsimp only
    by_cases hbound : (s.scopes.lookup name).isSome = true
    · simp only [hbound, if_true]
    · have hcontains : d.functions.contains name = (d.functions.get? name).isSome := rfl
      rw [if_neg hbound, if_neg hbound, if_neg hbound, hcontains]
      cases hfunction : d.functions.get? name with
      | none => rfl
      | some results => simp [Asked.results, hfunction]
  | select id span operand field =>
    dsimp only
    generalize s.table.uses.get? field.id = use
    generalize s.table.selections.get? id = selection
    -- a method is known by its package and its receiver
    rcases use with _ | f | type | path
    case some.function => rfl
    all_goals
      rcases selection with _ | ⟨_ | package, _ | receiver, name⟩ | type | path
      all_goals rfl
  | _ => rfl

/-- A name that is called stands for an imported package where it is looked up, and is the name of a
function of the file. -/
def isTwofold (d : Declarations) (scopes : Scopes) : Expr → Bool
  | .ident _ _ name =>
    (scopes.lookup name).isNone && d.imports.contains name && d.functions.contains name
  | _ => false

end Meaning

/-! ## Calls -/

/-- When a call is finished, its results are recorded. -/
theorem Tree.note_finish_call {d : Declarations} {id : NodeId} {s : State} (t : Tree)
    (h : s.note id = {}) (callee : Expr) (args : List Expr) :
    ((t.finish d id .call (callee :: args)).run s).2.note id =
      Meaning.calledNote (Meaning.callResults d s callee) := by
  have hnote := fun results => (writes_called results h).note
  unfold finish
  rw [run_bind, run_get]
  rcases Meaning.callResults d s callee with _ | ⟨single, _ | ⟨next, rest⟩⟩
  · exact hnote []
  · exact hnote [single]
  · exact hnote (single :: next :: rest)

namespace Reached

variable {file t : Tree} {s : State} {id : NodeId} {span : Span} {callee : Expr} {args : List Expr}

/-- The callee of a call is made right after the call is given its identity, and the notes on it are
there when the results of the call are looked up. -/
theorem called (h : Reached file .expression t s)
    (hcall : ((t.meaning file.declarations).lower.run s).1 = .call id span callee args) :
    Noted file.declarations s.scopes file.visited.2 callee ∧
      (∀ i ∈ callee.own, file.visited.2.note i = (t.prepared file.declarations s).2.note i) ∧
      file.visited.2.note id = Meaning.calledNote (Meaning.callResults file.declarations
        (t.prepared file.declarations s).2 callee) := by
  obtain ⟨hs, hwithin⟩ := h.within
  have hmade := hcall
  rw [Tree.run_lower, Tree.run_finish] at hmade
  obtain ⟨hform, hprepared⟩ := Tree.of_made_call hmade
  obtain ⟨-, -, function, hplan⟩ := Tree.of_plan_call hform
  -- the callee is the first of the expressions below the call
  have hreached : Reached file .expression function s.bump := by
    refine .step h ?_
    rw [Tree.tasks, hplan]
    exact .here
  have hcallee : ((function.meaning file.declarations).lower.run s.bump).1 = callee := by
    rw [Tree.prepared, hplan, Task.runAll_takeAll_cons] at hprepared
    exact (List.cons.inj hprepared).1
  have hnoted := hreached.noted
  rw [hcallee] at hnoted
  have hunfinished := Tree.unfinished_of_keeps (Tree.keeps_tasks file.declarations
    (t.plan file.declarations).2) hs
  have hcontinues := (Tree.finished_lower file.declarations t hs).continues
  rw [← Tree.run_lower] at hcontinues
  have hfinal : ∀ i, s.next ≤ i → i < (t.prepared file.declarations s).2.next →
      file.visited.2.note i = ((t.meaning file.declarations).lower.run s).2.note i :=
    fun i hlo hhi => (hwithin i ⟨hlo, Nat.lt_of_lt_of_le hhi hcontinues.next_le⟩).2
  refine ⟨hnoted, fun i hi => ?_, ?_⟩
  · -- the identities of the callee are handed out after that of the call, and before its arguments
    have hown := (Tree.finished_lower file.declarations function (Tree.blank_bump hs)).own
    rw [← Tree.run_lower, hcallee] at hown
    obtain ⟨hlo, hhi⟩ := hown i hi
    have hblank := (Tree.keeps_does file.declarations .expression function s.bump
      (Tree.blank_bump hs)).blank
    have hlater := (Tree.keeps_tasks file.declarations (Task.takeAll .expression
      (((t.child? .arguments).map Tree.operands).getD [])) _ hblank).extends_
    have hlt : i < (t.prepared file.declarations s).2.next := by
      rw [Tree.prepared, hplan, Task.runAll_takeAll_cons]
      exact Nat.lt_of_lt_of_le hhi hlater.next_le
    rw [hfinal i (Nat.le_of_succ_le hlo) hlt]
    exact hcontinues.note i hlt (Nat.ne_of_gt hlo)
  · obtain rfl : s.next = id := by
      rw [hform, hprepared] at hmade
      exact (Expr.call.inj hmade).1
    rw [hfinal s.next (Nat.le_refl _) hunfinished.lt, Tree.run_lower, hform, hprepared]
    exact t.note_finish_call hunfinished.note callee args

/-- **The function that is called is the one that is asked for the results**, unless the name of the
function is that of an import. -/
theorem calledFunction?_eq_iff (h : Reached file .expression t s)
    (hcall : ((t.meaning file.declarations).lower.run s).1 = .call id span callee args)
    (hparens : callee.stripParens = callee) :
    LoggingApi.calledFunction? (lowerFile file).2.resolver callee =
        (Meaning.asked? file.declarations (t.prepared file.declarations s).2 callee).map
          (Asked.function file.declarations) ↔
      Meaning.isTwofold file.declarations s.scopes callee = false := by
  obtain ⟨hnoted, hsame, -⟩ := h.called hcall
  have hscopes := Tree.scopes_prepared file.declarations t s
  unfold Meaning.asked?
  rw [hparens, hscopes]
  cases callee with
  | ident nameId nameSpan name =>
    have huse : (lowerFile file).2.resolver.useOf nameId = _ := congrArg Note.use hnoted
    simp only [LoggingApi.calledFunction?, huse, Meaning.nameNote, Meaning.isTwofold]
    rcases s.scopes.lookup name with _ | _ | type
    · have hcontains : file.declarations.imports.contains name =
          (file.declarations.imports.get? name).isSome := rfl
      rw [hcontains]
      cases file.declarations.imports.get? name with
      | none => cases file.declarations.functions.contains name <;> simp [Asked.function]
      | some path => cases file.declarations.functions.contains name <;> simp
    · simp
    · simp
  | select selectId selectSpan operand field =>
    obtain ⟨hselector, hfield⟩ := hnoted
    have hselection : (lowerFile file).2.resolver.selection selectId = _ :=
      congrArg Note.selection hselector
    have huse : (lowerFile file).2.resolver.useOf field.id = _ := congrArg Note.use hfield
    -- nothing was written about the callee since
    have hselection' : (t.prepared file.declarations s).2.table.selections.get? selectId = _ :=
      congrArg Note.selection ((hsame selectId (by simp [Expr.own])).symm.trans hselector)
    have huse' : (t.prepared file.declarations s).2.table.uses.get? field.id = _ :=
      congrArg Note.use ((hsame field.id (by simp [Expr.own])).symm.trans hfield)
    simp only [LoggingApi.calledFunction?, hselection, huse, hselection', huse', Meaning.isTwofold,
      iff_true]
    unfold Meaning.selectedUse? Meaning.selected?
    cases Meaning.packageOf? file.visited.2.table operand with
    | some package => rfl
    | none =>
      dsimp only
      cases (file.visited.2.note operand.id).type with
      | none => rfl
      | some type =>
        rw [Option.bind_some]
        rcases hmember : file.declarations.member? type field.name with _ | fieldType | f
        · rfl
        · rfl
        · obtain ⟨package, receiver, -, -, rfl⟩ := Declarations.eq_method_of_memberWithin? hmember
          rfl
  | paren parenId parenSpan inner => exact absurd hparens (Expr.stripParens_ne_paren inner)
  | literal | call | binary | other => simp [LoggingApi.calledFunction?, Meaning.isTwofold]

end Reached

/-- **The annotations of a file fit together**, and a call without parentheses around its callee is
taken to call the function that is asked for its results, unless an import has the name of that
function. -/
theorem annotations_wellFormed (file : Tree) :
    WellFormed (lowerFile file).1 (lowerFile file).2 ∧
    ∀ id span callee args, .call id span callee args ∈ Expr.nodesOfAll (lowerFile file).1 →
      callee.stripParens = callee →
      ∃ t s, Reached file .expression t s ∧
        ((t.meaning file.declarations).lower.run s).1 = .call id span callee args ∧
        (lowerFile file).2.resolver.typeOf id = (Meaning.calledNote (Meaning.callResults
          file.declarations (t.prepared file.declarations s).2 callee)).type ∧
        (LoggingApi.calledFunction? (lowerFile file).2.resolver callee =
            (Meaning.asked? file.declarations (t.prepared file.declarations s).2 callee).map
              (Asked.function file.declarations) ↔
          Meaning.isTwofold file.declarations s.scopes callee = false) := by
  refine ⟨wellFormed_lowerFile file, fun id span callee args hnode hparens => ?_⟩
  obtain ⟨t, s, hreached, hcall⟩ := exists_reached hnode
  obtain ⟨-, -, hnote⟩ := hreached.called hcall
  exact ⟨t, s, hreached, hcall, congrArg Note.type hnote,
    hreached.calledFunction?_eq_iff hcall hparens⟩

/-- A call and its callee, where the callee is a name. -/
theorem exists_call {e callee : Expr} (he : e.isCall = true) (hcallee : callee ∈ e.parts.head?)
    (hname : callee.isName = true) :
    callee.stripParens = callee ∧ ∃ id span args, e = .call id span callee args := by
  cases e with
  | call id span callee' args =>
    obtain rfl := Option.some.inj hcallee
    refine ⟨?_, id, span, args, rfl⟩
    cases callee' <;> first | rfl | cases hname
  | _ => cases he

/-- A function that logs through the default logger. -/
def defaultLogger : String :=
  "package p\nimport \"log/slog\"\nfunc f() \x7b slog.Default().Info(\"Hello\") \x7d"

/-- A method that is called on the result of a function. -/
theorem annotations_wellFormed_method : ∃ (file : Tree) (id : NodeId) (span : Span) (callee : Expr)
    (args : List Expr),
    Tree.ofSource? defaultLogger = some file ∧
    .call id span callee args ∈ Expr.nodesOfAll (lowerFile file).1 ∧ callee.stripParens = callee ∧
    LoggingApi.calledFunction? (lowerFile file).2.resolver callee =
      some (.method "log/slog" "Logger" "Info") ∧
    ∃ t s, Reached file .expression t s ∧
      ((t.meaning file.declarations).lower.run s).1 = .call id span callee args ∧
      (Meaning.asked? file.declarations (t.prepared file.declarations s).2 callee).map
        (Asked.function file.declarations) = some (.method "log/slog" "Logger" "Info") := by
  have hfile : ∃ file ∈ Tree.ofSource? defaultLogger,
      ∃ e ∈ Expr.nodesOfAll file.visited.1, e.isCall = true ∧ ∃ callee ∈ e.parts.head?,
        callee.isName = true ∧
        LoggingApi.calledFunction? file.visited.2.table.resolver callee =
          some (.method "log/slog" "Logger" "Info") ∧ callee.own.length = 2 := by
    rw [Tree.ofSource?_eq]
    decide +kernel
  obtain ⟨file, hfile, e, he, hcall, callee, hcallee, hname, hcalled, hselect⟩ := hfile
  obtain ⟨hparens, id, span, args, rfl⟩ := exists_call hcall hcallee hname
  have hnode := mem_nodes_lowerFile.2 he
  obtain ⟨t, s, hreached, hlower, -, hsame⟩ :=
    (annotations_wellFormed file).2 id span callee args hnode hparens
  have htwofold : Meaning.isTwofold file.declarations s.scopes callee = false := by
    cases callee with
    | ident => cases hselect
    | _ => rfl
  exact ⟨file, id, span, callee, args, hfile, hnode, hparens, hcalled, t, s, hreached, hlower,
    (hsame.2 htwofold).symm.trans hcalled⟩

/-- A function of a file that is named like an import. -/
def retryFunction : String :=
  "package main\n\nimport (\n\t\"example.com/retry\"\n)\n\n" ++
    "func retry() string \x7b return \"\" \x7d\n\nfunc main() \x7b\n\tbackoff.Start()\n" ++
    "\tretry()\n\x7d\n"

/-- A function of a file that is named like an import: its results are found, but the name stands for
the package. -/
theorem called_twofold : ∃ (file : Tree) (id : NodeId) (span : Span) (callee : Expr) (args : List Expr),
    Tree.ofSource? retryFunction = some file ∧
    .call id span callee args ∈ Expr.nodesOfAll (lowerFile file).1 ∧ callee.stripParens = callee ∧
    LoggingApi.calledFunction? (lowerFile file).2.resolver callee = none ∧
    (lowerFile file).2.resolver.typeOf id = some .string ∧
    ∃ t s, Reached file .expression t s ∧
      ((t.meaning file.declarations).lower.run s).1 = .call id span callee args ∧
      Meaning.asked? file.declarations (t.prepared file.declarations s).2 callee =
        some (.own "retry") := by
  have hfile : ∃ file ∈ Tree.ofSource? retryFunction,
      file.declarations.functions.contains "retry" = true ∧
      ∃ e ∈ Expr.nodesOfAll file.visited.1, e.isCall = true ∧
        file.visited.2.table.types.get? e.id = some .string ∧
        ∃ callee ∈ e.parts.head?, isNameOf "retry" callee = true ∧
          file.visited.2.table.uses.get? callee.id = some (.package "example.com/retry") := by
    rw [Tree.ofSource?_eq]
    decide +kernel
  obtain ⟨file, hfile, hfunction, e, he, hcall, htype, callee, hcallee, hname, huse⟩ := hfile
  obtain ⟨nameId, nameSpan, rfl⟩ := isNameOf_iff.1 hname
  obtain ⟨hparens, id, span, args, rfl⟩ := exists_call hcall hcallee rfl
  have hnode := mem_nodes_lowerFile.2 he
  obtain ⟨t, s, hreached, hlower⟩ := exists_reached hnode
  obtain ⟨hnoted, -, -⟩ := hreached.called hlower
  -- no open block binds the name, as it stands for the package
  have hpackage : (Meaning.nameNote file.declarations s.scopes "retry").use =
      some (.package "example.com/retry") := (congrArg Note.use hnoted).symm.trans huse
  have hlookup := (Meaning.nameNote_package hpackage).1
  refine ⟨file, id, span, _, args, hfile, hnode, hparens, ?_, htype, t, s, hreached, hlower, ?_⟩
  · have huse' : (lowerFile file).2.resolver.useOf nameId = some (.package "example.com/retry") := huse
    simp [LoggingApi.calledFunction?, huse']
  · simp [Meaning.asked?, Expr.stripParens, Tree.scopes_prepared, hlookup, hfunction]

end LogStyle.Go
