import LogStyle.Proofs.Points

/-!
# Translations

A translation takes nodes, types, identities and states to others, and says what is compared of the
expressions on both sides. It is faithful if single steps go along with it: what is read off a node,
how names are declared, and what is made of a node in the end. Then all work does.

* `Translation`, `Translation.Faithful`: translations, and those that single steps go along with.
* `Translation.Reads.work`, `Translation.Reads.plan`: the work for a translated node is the translated
  work.
* `Translation.Faithful.does`: **a translated node does in a translated state what the node does.**
-/

namespace LogStyle.Go

open Lower

/-- What becomes of nodes, types, identities and states, and what is compared of the expressions of a
node and of the translated node. -/
structure Translation where
  node : Tree → Tree := fun t => t
  type : StaticType → StaticType := fun type => type
  number : NodeId → NodeId := fun i => i
  state : State → State := fun s => s
  before : Expr → Expr := fun e => e
  after : Expr → Expr := fun e => e

/-! ## Translated work -/

namespace Task

mutual

def translated (k : Translation) : Task → Task
  | take role t => take role (k.node t)
  | declare bindings => declare (bindings.map fun b => (b.1, b.2.map k.type))
  | define names declared values => define names (declared.map k.type) (values.map k.node)
  | block tasks => block (translatedAll k tasks)

def translatedAll (k : Translation) : List Task → List Task
  | [] => []
  | task :: rest => task.translated k :: translatedAll k rest

end

variable {k : Translation}

theorem translatedAll_append (xs ys : List Task) :
    translatedAll k (xs ++ ys) = translatedAll k xs ++ translatedAll k ys := by
  induction xs with
  | nil => rfl
  | cons x xs ih => rw [List.cons_append, translatedAll, translatedAll, ih, List.cons_append]

theorem translatedAll_takeAll (role : Role) (ts : List Tree) :
    translatedAll k (takeAll role ts) = takeAll role (ts.map k.node) := by
  induction ts with
  | nil => rfl
  | cons t ts ih =>
    rw [takeAll, List.map_cons, translatedAll, translated, ← takeAll, ih]
    rfl

theorem translatedAll_declare (names : List String) :
    translatedAll k [.declare (names.map fun name => (name, none))] =
      [.declare (names.map fun name => (name, none))] := by
  simp [translatedAll, translated, Function.comp_def]

end Task

def Form.translated (k : Translation) : Form → Form
  | .select member => .select (k.node member)
  | .typed type => .typed (type.map k.type)
  | form => form

namespace Translation

open LogStyle.Go.Tree

/-- The nodes and types of a translation go with each other: what is read off a translated node is
what is read off the node. -/
structure Reads (k : Translation) (d d' : Declarations) : Prop where
  field : ∀ t, (k.node t).field = t.field
  kind : ∀ t, (k.node t).kind = t.kind
  children : ∀ t, (k.node t).children = t.children.map k.node
  names : ∀ t, (k.node t).childTexts .name = t.childTexts .name
  token : ∀ t, (k.node t).hasToken ":=" = t.hasToken ":="
  identifiers : ∀ t, Meaning.identifiers (k.node t) = Meaning.identifiers t
  operator : ∀ t, (k.node t).operator = t.operator
  typeOf : ∀ t, d'.typeOf (k.node t) = k.type (d.typeOf t)
  other : ∀ word, k.type (.other word) = .other word

namespace Reads

variable {k : Translation} {d d' : Declarations} (h : k.Reads d d')
include h

theorem parts (t : Tree) : (k.node t).parts = t.parts.map k.node := by
  have hnamed : isNamed ∘ k.node = isNamed := funext fun c => by
    rw [Function.comp_apply, isNamed, isNamed, h.kind]
  rw [Tree.parts, h.children, List.filter_map, hnamed, Tree.parts]

theorem child? (t : Tree) (role : Field) : (k.node t).child? role = (t.child? role).map k.node := by
  rw [Tree.child?, h.children, List.find?_map, Tree.child?]
  simp only [Function.comp_def, h.field]

theorem operands (t : Tree) : (k.node t).operands = t.operands.map k.node := by
  rw [Tree.operands, h.parts, List.filter_map, Tree.operands]
  simp only [Function.comp_def, h.kind]

theorem listed (t : Tree) : (k.node t).listed = t.listed.map k.node := by
  unfold Tree.listed
  rw [h.kind, h.parts]
  split <;> rfl

theorem listedIn (t : Tree) (role : Field) :
    (k.node t).listedIn role = (t.listedIn role).map k.node := by
  rw [Tree.listedIn, h.child?, Tree.listedIn]
  cases t.child? role with
  | none => rfl
  | some c => exact h.listed c

theorem namesIn (t : Tree) (role : Field) : (k.node t).namesIn role = t.namesIn role := by
  rw [Tree.namesIn, h.child?, Tree.namesIn]
  cases t.child? role with
  | none => rfl
  | some c => exact h.identifiers c

theorem typeIn (t : Tree) : (k.node t).typeIn d' = (t.typeIn d).map k.type := by
  rw [Tree.typeIn, h.child?, Tree.typeIn]
  cases t.child? .type with
  | none => rfl
  | some c => exact congrArg some (h.typeOf c)

theorem entries (t : Tree) : (k.node t).entries = t.entries.map k.node := by
  unfold Tree.entries
  rw [List.map_flatMap]
  refine List.flatMap_congr fun role _ => ?_
  rw [h.child?]
  cases t.child? role with
  | none => rfl
  | some list =>
    simp only [Option.map_some, h.kind, h.parts]
    split <;> rfl

theorem bindings (entry : Tree) :
    (k.node entry).bindings d' = (entry.bindings d).map fun b => (b.1, b.2.map k.type) := by
  unfold Tree.bindings
  rw [h.names, h.child?, h.kind, List.map_map]
  refine List.map_congr_left fun name _ => ?_
  cases entry.child? .type with
  | none => rfl
  | some type =>
    simp only [Option.map_some, Function.comp_apply, h.typeOf]
    split
    · rw [h.other]
    · rfl

theorem functionTasks (t : Tree) :
    (k.node t).functionTasks d' = Task.translatedAll k (t.functionTasks d) := by
  have hbindings : (t.entries.map k.node).flatMap (Tree.bindings d') =
      (t.entries.flatMap (Tree.bindings d)).map fun b => (b.1, b.2.map k.type) := by
    rw [List.flatMap_map, List.map_flatMap]
    exact List.flatMap_congr fun entry _ => h.bindings entry
  simp only [Tree.functionTasks, Task.translatedAll, Task.translated, Task.translatedAll_takeAll,
    h.entries, hbindings, h.child?, Option.toList_map]

/-- The work for a translated statement is the translated work. -/
theorem work (t : Tree) : (k.node t).work d' = Task.translatedAll k (t.work d) := by
  have hfunction := h.functionTasks t
  have hparts : Task.takeAll .statement (k.node t).parts =
      Task.translatedAll k (Task.takeAll .statement t.parts) := by
    rw [h.parts, Task.translatedAll_takeAll]
  have hone : ∀ role field, Task.takeAll role ((k.node t).child? field).toList =
      Task.translatedAll k (Task.takeAll role (t.child? field).toList) := by
    intro role field
    rw [h.child?, Option.toList_map, Task.translatedAll_takeAll]
  have hcases : Task.takeAll .statement
      ((k.node t).children.filter fun c => c.kind = .typeCase || c.kind = .defaultCase) =
      Task.translatedAll k (Task.takeAll .statement
        (t.children.filter fun c => c.kind = .typeCase || c.kind = .defaultCase)) := by
    rw [Task.translatedAll_takeAll, h.children, List.filter_map]
    simp only [Function.comp_def, h.kind]
  have hlist : ∀ field, Task.takeAll .expression ((k.node t).listedIn field) =
      Task.translatedAll k (Task.takeAll .expression (t.listedIn field)) := by
    intro field
    rw [h.listedIn, Task.translatedAll_takeAll]
  have hreceiver : Task.takeAll .expression ((k.node t).child? .right).toList
      ++ (if (k.node t).hasToken ":=" then
            [.declare (((k.node t).namesIn .left).map fun name => (name, none))]
          else Task.takeAll .expression ((k.node t).listedIn .left)) =
      Task.translatedAll k (Task.takeAll .expression (t.child? .right).toList
        ++ if t.hasToken ":=" then [.declare ((t.namesIn .left).map fun name => (name, none))]
          else Task.takeAll .expression (t.listedIn .left)) := by
    rw [Task.translatedAll_append, hone, h.token, h.namesIn, hlist]
    split
    · rw [Task.translatedAll_declare]
    · rfl
  have hdefine : ∀ names declared field,
      [Task.define names (declared.map k.type) ((k.node t).listedIn field)] =
        Task.translatedAll k [.define names declared (t.listedIn field)] := by
    intro names declared field
    rw [h.listedIn]
    rfl
  have hblock : [Task.block (Task.takeAll .statement (k.node t).parts)] =
      Task.translatedAll k [.block (Task.takeAll .statement t.parts)] := by
    rw [hparts]
    rfl
  have hswitch : [Task.block (Task.takeAll .statement ((k.node t).child? .initializer).toList
        ++ Task.takeAll .expression ((k.node t).child? .value).toList
        ++ .declare ((t.namesIn .alias).map fun name => (name, none))
        :: Task.takeAll .statement
          ((k.node t).children.filter fun c => c.kind = .typeCase || c.kind = .defaultCase))] =
      Task.translatedAll k [.block (Task.takeAll .statement (t.child? .initializer).toList
        ++ Task.takeAll .expression (t.child? .value).toList
        ++ .declare ((t.namesIn .alias).map fun name => (name, none))
        :: Task.takeAll .statement
          (t.children.filter fun c => c.kind = .typeCase || c.kind = .defaultCase))] := by
    rw [hone, hone, hcases]
    simp [Task.translatedAll, Task.translated, Task.translatedAll_append, Function.comp_def]
  have hexpr : [Task.take .expression (k.node t)] = Task.translatedAll k [.take .expression t] := rfl
  have hnothing : [] = Task.translatedAll k [] := rfl
  rw [h.namesIn] at hreceiver
  unfold Tree.work
  rw [h.kind, h.names, h.typeIn, h.namesIn, h.namesIn]
  generalize t.kind = kind
  cases kind
  -- every kind of node is visited in one of these ways
  all_goals first
    | exact hparts
    | exact hexpr
    | exact hnothing
    | exact hblock
    | exact hfunction
    | exact hdefine _ _ _
    | exact hdefine _ none _
    | exact hreceiver
    | exact hswitch

/-- The work for a translated expression is the translated work, and so is the form. -/
theorem plan (t : Tree) :
    (k.node t).plan d' = ((t.plan d).1.translated k, Task.translatedAll k (t.plan d).2) := by
  have hrest : Task.takeAll .expression (k.node t).operands =
      Task.translatedAll k (Task.takeAll .expression t.operands) := by
    rw [h.operands, Task.translatedAll_takeAll]
  unfold Tree.plan
  dsimp only
  rw [hrest, h.kind, h.typeIn, h.operator, h.functionTasks, h.parts]
  simp only [h.child?]
  generalize t.kind = kind
  cases kind
  case parenthesizedExpression => cases t.parts <;> rfl
  case binaryExpression => cases t.child? .left <;> cases t.child? .right <;> rfl
  case selectorExpression => cases t.child? .operand <;> cases t.child? .member <;> rfl
  case callExpression =>
    cases t.child? .function with
    | none => rfl
    | some function =>
      cases t.child? .arguments with
      | none => rfl
      | some arguments =>
        simp only [Option.map_some, Option.getD_some, h.operands, Form.translated,
          Task.translatedAll_takeAll, List.map_cons]
  all_goals rfl

end Reads

/-! ## Steps that go along -/

/-- Work that leaves expressions behind which compare, and ends in the translated state. -/
def Matches (k : Translation) (x x' : Lower (List Expr)) : Prop :=
  ∀ s, (x'.run (k.state s)).1.map k.after = (x.run s).1.map k.before ∧
    (x'.run (k.state s)).2 = k.state (x.run s).2

/-- A translation that single steps go along with. -/
structure Faithful (k : Translation) (d d' : Declarations) : Prop extends Reads k d d' where
  next : ∀ s, (k.state s).next = k.number s.next
  bump : ∀ s, k.state s.bump = (k.state s).bump
  push : ∀ s, k.state { s with scopes := s.scopes.push } =
    { k.state s with scopes := (k.state s).scopes.push }
  pop : ∀ s, k.state { s with scopes := s.scopes.pop } =
    { k.state s with scopes := (k.state s).scopes.pop }
  declare : ∀ s name (type : Option StaticType),
    k.state { s with scopes := s.scopes.declare name type } =
      { k.state s with scopes := (k.state s).scopes.declare name (type.map k.type) }
  values : ∀ s names (es es' : List Expr), es'.map k.after = es.map k.before →
    Meaning.valueTypes (k.state s) es' names = (Meaning.valueTypes s es names).map (Option.map k.type)
  finish : ∀ s id t (es es' : List Expr), es'.map k.after = es.map k.before →
    k.after (((k.node t).finish d' (k.number id) ((t.plan d).1.translated k) es').run (k.state s)).1 =
        k.before ((t.finish d id (t.plan d).1 es).run s).1 ∧
      (((k.node t).finish d' (k.number id) ((t.plan d).1.translated k) es').run (k.state s)).2 =
        k.state ((t.finish d id (t.plan d).1 es).run s).2

section

variable {k : Translation} {x x' y y' : Lower (List Expr)}

theorem matches_nothing : k.Matches (pure []) (pure []) := fun _ => ⟨rfl, rfl⟩

theorem Matches.append (hx : k.Matches x x') (hy : k.Matches y y') :
    k.Matches (do return (← x) ++ (← y)) (do return (← x') ++ (← y')) := by
  intro s
  obtain ⟨hes, hs⟩ := hx s
  obtain ⟨hfs, hu⟩ := hy (x.run s).2
  simp only [run_bind, run_pure, List.map_append, hes, hs, hfs, hu, and_self]

end

namespace Faithful

variable {k : Translation} {d d' : Declarations} (h : k.Faithful d d') {x x' : Lower (List Expr)}
include h

theorem inBlock (hx : k.Matches x x') : k.Matches (inBlock x) (inBlock x') := by
  intro s
  obtain ⟨hes, hs⟩ := hx { s with scopes := s.scopes.push }
  rw [h.push] at hes hs
  refine ⟨hes, Eq.trans ?_ (h.pop _).symm⟩
  exact congrArg (fun u : State => { u with scopes := u.scopes.pop }) hs

theorem run_declareAll (names : List String) (types : List (Option StaticType)) (s : State) :
    (declareAll names (types.map (Option.map k.type))).run (k.state s) =
      ((), k.state ((declareAll names types).run s).2) := by
  induction names generalizing types s with
  | nil => rfl
  | cons name names ih =>
    have htype : (types.map (Option.map k.type)).head?.join = types.head?.join.map k.type := by
      rcases types with _ | ⟨_ | type, types⟩ <;> rfl
    have htail : (types.map (Option.map k.type)).tail = types.tail.map (Option.map k.type) :=
      List.map_tail.symm
    rw [declareAll, declareAll, htype, htail]
    refine Eq.trans ?_ (ih types.tail { s with scopes := s.scopes.declare name types.head?.join })
    rw [h.declare]
    rfl

theorem runDeclare (bindings : List (String × Option StaticType)) :
    k.Matches ((Task.declare bindings).run d) (((Task.declare bindings).translated k).run d') := by
  have htypes : (bindings.map fun b => (b.1, b.2.map k.type)).map (·.2) =
      (bindings.map (·.2)).map (Option.map k.type) := by
    rw [List.map_map, List.map_map]
    rfl
  have hnames : (bindings.map fun b => (b.1, b.2.map k.type)).map (·.1) = bindings.map (·.1) := by
    rw [List.map_map]
    rfl
  intro s
  rw [Task.translated, Task.run, Task.run, htypes, hnames, run_bind, run_bind, h.run_declareAll]
  exact ⟨rfl, rfl⟩

omit h in
theorem runTakeAll {role : Role} {f : Tree → Tree} {ts : List Tree}
    (hts : ∀ t ∈ ts, k.Matches (t.does d role) ((f t).does d' role)) :
    k.Matches (Task.runAll d (Task.takeAll role ts)) (Task.runAll d' (Task.takeAll role (ts.map f))) := by
  induction ts with
  | nil => exact matches_nothing
  | cons t ts ih =>
    rw [List.map_cons, Task.runAll_takeAll_cons, Task.runAll_takeAll_cons]
    exact (hts t List.mem_cons_self).append (ih fun c hc => hts c (List.mem_cons_of_mem _ hc))

theorem runDefine {names : List String} {declared : Option StaticType} {values : List Tree}
    (hvalues : ∀ t ∈ values, k.Matches (t.does d .expression) ((k.node t).does d' .expression)) :
    k.Matches ((Task.define names declared values).run d)
      (((Task.define names declared values).translated k).run d') := by
  intro s
  obtain ⟨hes, hs⟩ := runTakeAll hvalues s
  rw [Task.translated, Task.run, Task.run, Meaning.visitDeclaration, Meaning.visitDeclaration,
    ← Task.runAll_lower, ← Task.runAll_lower]
  simp only [run_bind, run_get, run_pure]
  generalize (Task.runAll d (Task.takeAll .expression values)).run s = after at hes hs
  generalize (Task.runAll d' (Task.takeAll .expression (values.map k.node))).run (k.state s) = after'
    at hes hs
  have htypes : (List.range names.length).map (fun i => (declared.map k.type).or
        (Meaning.valueTypes after'.2 after'.1 names.length)[i]?.join) =
      ((List.range names.length).map fun i =>
        declared.or (Meaning.valueTypes after.2 after.1 names.length)[i]?.join).map
          (Option.map k.type) := by
    rw [hs, h.values _ _ _ _ hes, List.map_map]
    refine List.map_congr_left fun i _ => ?_
    rw [List.getElem?_map, Function.comp_apply, Option.map_or]
    rcases (Meaning.valueTypes after.2 after.1 names.length)[i]? with _ | _ | _ <;> rfl
  rw [htypes, hs, h.run_declareAll]
  exact ⟨hes, rfl⟩

omit h

mutual

/-- A translated piece of work matches if the nodes that are taken in it do. -/
theorem run (h : k.Faithful d d') : ∀ task : Task,
    (∀ role c, (role, c) ∈ task.taken → k.Matches (c.does d role) ((k.node c).does d' role)) →
      k.Matches (task.run d) ((task.translated k).run d')
  | .take role t, htaken => by
    rw [Task.translated, Task.run, Task.run]
    exact htaken role t (by simp [Task.taken])
  | .declare bindings, _ => h.runDeclare bindings
  | .define names declared values, htaken => by
    refine h.runDefine fun c hc => htaken .expression c ?_
    rw [Task.taken]
    exact List.mem_map_of_mem hc
  | .block tasks, htaken => by
    rw [Task.translated, Task.run, Task.run]
    refine h.inBlock (runAll h tasks fun role c hc => htaken role c ?_)
    rwa [Task.taken]

theorem runAll (h : k.Faithful d d') : ∀ tasks : List Task,
    (∀ role c, (role, c) ∈ Task.takenIn tasks →
        k.Matches (c.does d role) ((k.node c).does d' role)) →
      k.Matches (Task.runAll d tasks) (Task.runAll d' (Task.translatedAll k tasks))
  | [], _ => matches_nothing
  | task :: rest, htaken => by
    rw [Task.translatedAll, Task.runAll, Task.runAll]
    have htask := run h task fun role c hc => htaken role c (by simp [Task.takenIn, hc])
    have hrest := runAll h rest fun role c hc => htaken role c (by simp [Task.takenIn, hc])
    exact htask.append hrest

end

include h in
/-- **A translated node does in a translated state what the node does**, in whatever role it is
taken. -/
theorem does : ∀ role (t : Tree), k.Matches (t.does d role) ((k.node t).does d' role) := by
  refine does_induction d fun role t ih => ?_
  have htasks := h.runAll (t.tasks d role) ih
  cases role with
  | statement =>
    rw [Tree.does, Tree.does, visit_eq, visit_eq, h.work]
    exact htasks
  | expression =>
    intro s
    have hrun : ∀ d t s, (Tree.does d .expression t).run s =
        ([((t.meaning d).lower.run s).1], ((t.meaning d).lower.run s).2) := fun d t s => rfl
    obtain ⟨hes, hs⟩ := htasks s.bump
    rw [h.bump] at hes hs
    have hprepared : (k.node t).prepared d' (k.state s) =
        (Task.runAll d' (Task.translatedAll k (t.tasks d .expression))).run (k.state s).bump := by
      rw [prepared, h.plan]
      rfl
    obtain ⟨hexpr, hstate⟩ := h.finish (t.prepared d s).2 s.next t _ _ hes
    rw [hrun, hrun, run_lower, run_lower, hprepared, h.next, h.plan, hs]
    exact ⟨congrArg (fun e => [e]) hexpr, hstate⟩

end Faithful

end Translation

end LogStyle.Go
