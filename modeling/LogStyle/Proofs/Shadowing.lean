import LogStyle.Proofs.Annotations

/-!
# Local names hide imports

A name that is declared in a function hides an import of that name from there on, up to the end of the
block. Parameters, results and receivers do, and so do variables, constants, the names of a range
clause or of a receive, and the name that a type switch gives to its value. Only the types that are
declared in a function do not: they are passed over.

* `Tree.Declares`: the statements that declare a name in the block in which they stand.
* `Hidden`: the nodes behind a declaration of a name, up to the end of its block.
* `Hidden.bound`: behind a declaration other than that of a type, the name is bound.
* `useOf_selector`: a selector through a name is recorded as a function exactly if the name is not
  bound and is that of an import.
* `Reached.mem_nodesOfAll`: what is made at a point is a node of the expressions of the file.
* `import_hidden`: **behind a declaration of a name in a function, selectors through the name are not
  recorded as functions of the package that it imports.** Behind that of a type they are
  (`recorded_behind_type`).
-/

namespace LogStyle.Go

open Lower

/-! ## Names in sight -/

namespace Scopes

variable {s : Scopes} {name : String}

theorem lookup_declare (s : Scopes) (name other : String) (type : Option StaticType) :
    (s.declare other type).lookup name =
      if name = other ∧ other ≠ "_" then some type else s.lookup name := by
  unfold declare
  by_cases hblank : other = "_"
  · simp [hblank]
  · cases hnested : s.nested <;> by_cases hname : name = other <;>
      simp [lookup, frames, List.findSome?_cons, hblank, hnested, hname]

/-- What is in sight stays in sight. -/
theorem lookup_replay_ne_none (h : s.lookup name ≠ none) (steps : List Step) :
    (s.replay steps).lookup name ≠ none := by
  induction steps generalizing s with
  | nil => exact h
  | cons step steps ih =>
    refine ih ?_
    cases step with
    | enter => exact h
    | bind other type =>
      rw [Scopes.step, lookup_declare]
      split
      · simp
      · exact h

/-- A name that is bound is in sight. -/
theorem lookup_replay_binds (s : Scopes) {names : List Binding} (hname : name ≠ "_")
    (h : name ∈ names.map (·.1)) : (s.replay (Step.binds names)).lookup name ≠ none := by
  induction names generalizing s with
  | nil => cases h
  | cons b names ih =>
    rw [List.map_cons, List.mem_cons] at h
    rcases h with rfl | h
    · refine lookup_replay_ne_none (s := s.declare b.1 b.2) ?_ (Step.binds names)
      rw [lookup_declare, if_pos ⟨rfl, hname⟩]
      simp
    · exact ih (s.declare b.1 b.2) h

end Scopes

/-! ## Declarations of names -/

namespace Kind

/-- Statements whose parts are statements in a block of their own. -/
def isBlock : Kind → Bool
  | block | ifStatement | forStatement | expressionSwitchStatement | selectStatement
  | expressionCase | defaultCase | typeCase | communicationCase => true
  | _ => false

/-- Nodes that declare names themselves. -/
def isBinder : Kind → Bool
  | shortVarDeclaration | varSpec | constSpec | rangeClause | receiveStatement => true
  | _ => false

/-- Nodes whose parts are statements in the block around: no expressions and no types, no
declarations that are passed over, and none that declare names themselves. -/
def isTransparent (kind : Kind) : Bool :=
  !(kind.opensBlock || kind.isBinder || kind.isExpression || kind.isType ||
    kind = packageClause || kind = importDeclaration || kind = typeDeclaration)

end Kind

namespace Tree

variable {d : Declarations} {t a : Tree} {name : String} {s : State}

/-- The names that a node declares itself: those on the left of `:=`, and those of variables and
constants. -/
def boundNames (t : Tree) : List String :=
  match t.kind with
  | .shortVarDeclaration => t.namesIn .left
  | .varSpec | .constSpec => t.childTexts .name
  | .rangeClause | .receiveStatement => if t.hasToken ":=" then t.namesIn .left else []
  | _ => []

/-- The names of the receiver, the parameters and the results of a function. -/
def parameterNames (t : Tree) : List String := t.entries.flatMap (·.childTexts .name)

/-- A statement declares a name in the block in which it stands. Types count or do not count. -/
inductive Declares (types : Bool) (name : String) : Tree → Prop where
  | name {t : Tree} : name ∈ t.boundNames → Declares types name t
  | type {t spec : Tree} : types = true → t.kind = .typeDeclaration → spec ∈ t.parts →
      name ∈ spec.childTexts .name → Declares types name t
  | part {t c : Tree} : t.kind.isTransparent = true → c ∈ t.parts → Declares types name c →
      Declares types name t

theorem work_of_isBlock (h : t.kind.isBlock = true) (d : Declarations) :
    t.work d = [.block (Task.takeAll .statement t.parts)] := by
  unfold work
  generalize t.kind = kind at h
  cases kind
  all_goals first
    | rfl
    | cases h

theorem work_of_isTransparent (h : t.kind.isTransparent = true) (d : Declarations) :
    t.work d = Task.takeAll .statement t.parts := by
  unfold work
  generalize t.kind = kind at h
  cases kind
  all_goals first
    | rfl
    | cases h

end Tree

namespace Task

variable {d : Declarations} {tasks xs ys : List Task} {s u : State} {bs : List Binding} {role : Role}
  {t : Tree}

theorem run_runAll_append (xs ys : List Task) (s : State) :
    ((runAll d (xs ++ ys)).run s).2 = ((runAll d ys).run ((runAll d xs).run s).2).2 := by
  rw [runAll_append]
  rfl

/-- Work after other work comes to the points that it comes to by itself. -/
theorem Meets.append (h : Meets d ys ((runAll d xs).run s).2 role t u) :
    Meets d (xs ++ ys) s role t u := by
  induction xs generalizing s with
  | nil => exact h
  | cons task xs ih => exact .later (ih h)

theorem Meets.append_right (h : Meets d xs s role t u) (ys : List Task) :
    Meets d (xs ++ ys) s role t u := by
  induction h with
  | here => exact .here
  | later _ ih => exact .later ih
  | inside h => exact .inside h
  | value h => exact .value h

/-- What work binds after other work, it binds all the same. -/
theorem Binds.drop (h : Binds d (xs ++ ys) s bs) :
    ∃ as cs, Binds d ys ((runAll d xs).run s).2 cs ∧ bs = as ++ cs := by
  induction xs generalizing s bs with
  | nil => exact ⟨[], bs, h, rfl⟩
  | cons task xs ih =>
    obtain ⟨as, cs, -, hcs, rfl⟩ := h.uncons
    obtain ⟨as', cs', hcs', rfl⟩ := ih hcs
    exact ⟨as ++ as', cs', hcs', (List.append_assoc _ _ _).symm⟩

theorem map_defined (names : List String) (declared : Option StaticType)
    (values : List Expr × State) : (defined names declared values).map (·.1) = names := by
  refine List.map_fst_zip (Nat.le_of_eq ?_)
  rw [List.length_map, List.length_range]

/-- Work leaves the names in sight that were in sight. -/
theorem lookup_runAll_ne_none {name : String} (h : s.scopes.lookup name ≠ none)
    (tasks : List Task) : ((runAll d tasks).run s).2.scopes.lookup name ≠ none := by
  obtain ⟨bs, hbs⟩ := exists_binds d tasks s
  rw [hbs.scopes_runAll]
  exact Scopes.lookup_replay_ne_none h _

/-- Names that are declared are in sight. -/
theorem lookup_declare_ne_none {name : String} {bindings : List Binding} (hname : name ≠ "_")
    (h : name ∈ bindings.map (·.1)) (s : State) :
    (((declare bindings).run d).run s).2.scopes.lookup name ≠ none := by
  have hscopes : (((declare bindings).run d).run s).2.scopes =
      s.scopes.replay (Step.binds bindings) := by
    rw [run]
    exact scopes_declareAll bindings s
  rw [hscopes]
  exact Scopes.lookup_replay_binds _ hname h

/-- A point that comes later sees the names that were in sight. -/
theorem Meets.lookup_ne_none {name : String} (h : Meets d tasks s role t u)
    (hs : s.scopes.lookup name ≠ none) : u.scopes.lookup name ≠ none := by
  obtain ⟨steps, hcomes⟩ := h.exists_comes
  rw [show u.scopes = s.scopes.replay steps from hcomes.scopes_eq]
  exact Scopes.lookup_replay_ne_none hs steps

end Task

namespace Tree

variable {d : Declarations} {t a : Tree} {name : String} {s : State}

/-- What a node declares itself is bound. -/
theorem mem_binds_of_boundNames {bs : List Binding} (h : name ∈ t.boundNames)
    (hbs : Task.Binds d (t.work d) s bs) : name ∈ bs.map (·.1) := by
  have hdefine : ∀ {names declared values}, name ∈ names →
      Task.Binds d [.define names declared values] s bs → name ∈ bs.map (·.1) := by
    intro names declared values hmem hbs
    cases hbs with
    | define hrest =>
      rw [List.map_append, Task.map_defined]
      exact List.mem_append_left _ hmem
  have hreceiver : name ∈ (if t.hasToken ":=" then t.namesIn .left else []) →
      Task.Binds d (Task.takeAll .expression (t.child? .right).toList
        ++ if t.hasToken ":=" then [.declare ((t.namesIn .left).map fun name => (name, none))]
          else Task.takeAll .expression (t.listedIn .left)) s bs → name ∈ bs.map (·.1) := by
    intro hmem hbs
    split at hmem
    · rename_i htoken
      rw [if_pos htoken] at hbs
      obtain ⟨as, cs, hcs, rfl⟩ := hbs.drop
      cases hcs with
      | declare hrest => simp [hmem]
    · cases hmem
  unfold boundNames at h
  unfold work at hbs
  generalize t.kind = kind at h hbs
  cases kind
  case shortVarDeclaration => exact hdefine h hbs
  case varSpec => exact hdefine h hbs
  case constSpec => exact hdefine h hbs
  case rangeClause => exact hreceiver h hbs
  case receiveStatement => exact hreceiver h hbs
  all_goals cases h

/-- **What a statement declares is bound in the block in which it stands,** types aside. -/
theorem Declares.mem_binds (h : t.Declares false name) :
    ∀ {s : State} {bs : List Binding}, Task.Binds d (t.work d) s bs → name ∈ bs.map (·.1) := by
  induction h with
  | name hname => exact mem_binds_of_boundNames hname
  | type htypes => cases htypes
  | @part t c hkind hc _ ih =>
    intro s bs hbs
    obtain ⟨before, after, hparts⟩ := List.append_of_mem hc
    rw [work_of_isTransparent hkind, hparts, Task.takeAll, List.map_append] at hbs
    obtain ⟨as, cs, hcs, rfl⟩ := hbs.drop
    cases hcs with
    | statement hwork hrest =>
      have hmem := ih hwork
      simp only [List.map_append, List.mem_append]
      exact .inr (.inl hmem)

/-- Behind a statement that declares a name, the name is in sight. -/
theorem Declares.lookup_ne_none (h : a.Declares false name) (hname : name ≠ "_") (s : State) :
    ((a.does d .statement).run s).2.scopes.lookup name ≠ none := by
  obtain ⟨bs, hbs⟩ := Task.exists_binds d (a.work d) s
  rw [does, visit_eq, hbs.scopes_runAll]
  exact Scopes.lookup_replay_binds _ hname (h.mem_binds hbs)

end Tree

/-! ## Behind a declaration -/

namespace Tree

/-- A function, method or function literal, as it is taken. -/
def IsFunction (t : Tree) : Role → Prop
  | .statement => t.kind = .functionDeclaration ∨ t.kind = .methodDeclaration
  | .expression => t.kind = .funcLiteral

/-- The state in which the parts of a node are done: in a block of its own, if it is one. -/
def opened (t : Tree) (s : State) : State :=
  if t.kind.opensBlock then { s with scopes := s.scopes.push } else s

/-- What is done before the cases of a type switch: first the initializer, then the value, to which
a name is given. -/
def switchHead (t : Tree) : List Task :=
  Task.takeAll .statement (t.child? .initializer).toList ++
    (Task.takeAll .expression (t.child? .value).toList ++
      [.declare ((t.namesIn .alias).map fun name => (name, none))])

/-- The cases of a type switch. -/
def cases (t : Tree) : List Tree :=
  t.children.filter fun c => c.kind = .typeCase || c.kind = .defaultCase

end Tree

/-- A node that is taken on the way through a file stands behind a declaration of a name, in the block
of the declaration or in a block inside of it. Types count as declarations or do not count. -/
inductive Hidden (types : Bool) (file : Tree) (name : String) : Role → Tree → State → Prop where
  /-- The body of a function stands behind its receiver, parameters and results. -/
  | parameter {role : Role} {t body : Tree} {s u : State} : Reached file role t s →
      t.IsFunction role → name ∈ t.parameterNames →
      Task.Meets file.declarations (t.tasks file.declarations role) (role.enter s) .statement body u →
        Hidden types file name .statement body u
  /-- A statement stands behind the statements before it. -/
  | statement {t a c : Tree} {before after : List Tree} {s u : State} : Reached file .statement t s →
      (t.kind.isBlock = true ∨ t.kind.isTransparent = true) → t.parts = before ++ a :: after →
      a.Declares types name →
      Task.Meets file.declarations (Task.takeAll .statement after)
        ((Task.runAll file.declarations (Task.takeAll .statement (before ++ [a]))).run
          (t.opened s)).2 .statement c u →
        Hidden types file name .statement c u
  /-- The value of a type switch stands behind the initializer. -/
  | value {t a c : Tree} {s u : State} : Reached file .statement t s →
      t.kind = .typeSwitchStatement → t.child? .initializer = some a → a.Declares types name →
      Task.Meets file.declarations (Task.takeAll .expression (t.child? .value).toList)
        ((a.does file.declarations .statement).run (t.opened s)).2 .expression c u →
        Hidden types file name .expression c u
  /-- The cases of a type switch stand behind the initializer and the name that is given to the
  value. -/
  | cases {t c : Tree} {s u : State} : Reached file .statement t s →
      t.kind = .typeSwitchStatement →
      (name ∈ t.namesIn .alias ∨ ∃ a ∈ t.child? .initializer, a.Declares types name) →
      Task.Meets file.declarations (Task.takeAll .statement t.cases)
        ((Task.runAll file.declarations t.switchHead).run (t.opened s)).2 .statement c u →
        Hidden types file name .statement c u
  /-- What is taken inside of a node stands behind what the node stands behind. -/
  | inside {role role' : Role} {t c : Tree} {s u : State} : Hidden types file name role t s →
      Task.Meets file.declarations (t.tasks file.declarations role) (role.enter s) role' c u →
        Hidden types file name role' c u

namespace Tree

variable {d : Declarations} {t c a : Tree} {name : String} {s u : State} {role : Role}

theorem tasks_of_isFunction (h : t.IsFunction role) : t.tasks d role = t.functionTasks d := by
  cases role with
  | statement => rcases h with h | h <;> rw [tasks, work, h]
  | expression =>
    have hkind : t.kind = .funcLiteral := h
    rw [tasks, plan, hkind]

theorem work_typeSwitch (h : t.kind = .typeSwitchStatement) :
    t.work d = [.block (t.switchHead ++ Task.takeAll .statement t.cases)] := by
  rw [work, h]
  simp [switchHead, cases]

theorem opened_of_isTransparent (h : t.kind.isTransparent = true) (s : State) : t.opened s = s := by
  unfold opened
  generalize t.kind = kind at h
  cases kind
  all_goals first
    | rfl
    | cases h

theorem opened_of_isBlock (h : t.kind.isBlock = true) (s : State) :
    t.opened s = { s with scopes := s.scopes.push } := by
  unfold opened
  generalize t.kind = kind at h
  cases kind
  all_goals first
    | rfl
    | cases h

theorem opened_typeSwitch (h : t.kind = .typeSwitchStatement) (s : State) :
    t.opened s = { s with scopes := s.scopes.push } := by
  rw [opened, h]
  rfl

/-- The points of the parts of a node are points of the node. -/
theorem meets_of_parts (h : t.kind.isBlock = true ∨ t.kind.isTransparent = true)
    (hmeets : Task.Meets d (Task.takeAll .statement t.parts) (t.opened s) role c u) :
    Task.Meets d (t.work d) s role c u := by
  rcases h with h | h
  · rw [work_of_isBlock h]
    rw [opened_of_isBlock h] at hmeets
    exact .inside hmeets
  · rw [work_of_isTransparent h]
    rwa [opened_of_isTransparent h] at hmeets

/-- In the body of a function its parameters are in sight. -/
theorem lookup_parameter (h : name ∈ t.parameterNames) (hname : name ≠ "_")
    (hmeets : Task.Meets d (t.functionTasks d) s role c u) : u.scopes.lookup name ≠ none := by
  have hnames : (t.entries.flatMap (bindings d)).map (·.1) = t.parameterNames := by
    rw [List.map_flatMap, parameterNames]
    refine List.flatMap_congr fun entry _ => ?_
    simp [bindings, Function.comp_def]
  rw [← hnames] at h
  cases hmeets with
  | later hmeets => cases hmeets
  | inside hmeets =>
    cases hmeets with
    | later hmeets => exact hmeets.lookup_ne_none (Task.lookup_declare_ne_none hname h _)

/-- In the cases of a type switch, the names of the initializer and of the value are in sight. -/
theorem lookup_switchHead (h : name ∈ t.namesIn .alias ∨
      ∃ a ∈ t.child? .initializer, a.Declares false name) (hname : name ≠ "_") (s : State) :
    ((Task.runAll d t.switchHead).run s).2.scopes.lookup name ≠ none := by
  rw [switchHead, Task.run_runAll_append]
  rcases h with h | ⟨a, ha, hdeclares⟩
  · rw [Task.run_runAll_append, Task.runAll_singleton]
    refine Task.lookup_declare_ne_none hname ?_ _
    simpa using h
  · refine Task.lookup_runAll_ne_none ?_ _
    rw [Option.mem_def.1 ha]
    exact hdeclares.lookup_ne_none hname s

end Tree

namespace Hidden

variable {file t : Tree} {name : String} {role : Role} {s : State}

/-- Such a node is taken on the way through the file. -/
theorem reached {types : Bool} (h : Hidden types file name role t s) : Reached file role t s := by
  induction h with
  | parameter hreached _ _ hmeets => exact .step hreached hmeets
  | @statement t a c before after s u hreached hkind hparts _ hmeets =>
    refine .step hreached (Tree.meets_of_parts hkind ?_)
    have hsplit : t.parts = (before ++ [a]) ++ after := by simp [hparts]
    rw [hsplit, Task.takeAll, List.map_append]
    exact hmeets.append
  | value hreached hkind hinit _ hmeets =>
    refine Reached.step hreached ?_
    rw [Tree.tasks, Tree.work_typeSwitch hkind, Tree.switchHead, hinit, List.append_assoc]
    rw [Tree.opened_typeSwitch hkind] at hmeets
    exact .inside (.later ((hmeets.append_right _).append_right _))
  | cases hreached hkind _ hmeets =>
    refine Reached.step hreached ?_
    rw [Tree.tasks, Tree.work_typeSwitch hkind]
    rw [Tree.opened_typeSwitch hkind] at hmeets
    exact .inside hmeets.append
  | inside _ hmeets ih => exact .step ih hmeets

/-- **Behind a declaration other than that of a type, the name is in sight.** -/
theorem bound (h : Hidden false file name role t s) (hname : name ≠ "_") :
    s.scopes.lookup name ≠ none := by
  -- each constructor brings the name in sight, and no work on the way to the node takes it out again
  induction h with
  | parameter _ hfunction hmem hmeets =>
    rw [Tree.tasks_of_isFunction hfunction] at hmeets
    exact Tree.lookup_parameter hmem hname hmeets
  | @statement t a c before after s u _ _ _ hdeclares hmeets =>
    refine hmeets.lookup_ne_none ?_
    rw [Task.takeAll, List.map_append, Task.run_runAll_append]
    exact hdeclares.lookup_ne_none hname _
  | value _ _ _ hdeclares hmeets => exact hmeets.lookup_ne_none (hdeclares.lookup_ne_none hname _)
  | cases _ _ hdeclares hmeets =>
    exact hmeets.lookup_ne_none (Tree.lookup_switchHead hdeclares hname _)
  | @inside role role' t c s u _ hmeets ih =>
    refine hmeets.lookup_ne_none ?_
    cases role with
    | statement => exact ih
    | expression => exact ih

end Hidden

/-! ## Selectors through names -/

section

variable {file c operand member : Tree} {u : State} {d : Declarations}

theorem Tree.plan_selector (hkind : c.kind = .selectorExpression)
    (hoperand : c.child? .operand = some operand) (hmember : c.child? .member = some member) :
    c.plan d = (.select member, [.take .expression operand]) := by
  simp only [plan, hkind, hoperand, hmember]
  rfl

/-- A selector through a name. -/
theorem Tree.lower_selector (hkind : c.kind = .selectorExpression)
    (hoperand : c.child? .operand = some operand) (hname : operand.kind = .identifier)
    (hmember : c.child? .member = some member) :
    ∃ fieldId, ((c.meaning d).lower.run u).1 = .select u.next c.span
      (.ident u.bump.next operand.span operand.text) ⟨fieldId, member.text, member.span⟩ := by
  have hplan : c.plan d = _ := plan_selector hkind hoperand hmember
  have hprepared : (c.prepared d u).1 = [((operand.meaning d).lower.run u.bump).1] := by
    rw [prepared, hplan]
    rfl
  rw [run_lower, run_finish, hprepared, hplan, lower_identifier hname]
  exact ⟨_, rfl⟩

/-- A name refers to a package exactly if nothing in sight hides the import of the package. -/
theorem packageOf?_name (h : Reached file .expression c u) (hkind : c.kind = .identifier)
    (package : String) :
    Meaning.packageOf? file.visited.2.table (.ident u.next c.span c.text) = some package ↔
      u.scopes.lookup c.text = none ∧ file.declarations.imports.get? c.text = some package := by
  have hnoted := h.noted
  rw [Tree.lower_identifier hkind] at hnoted
  have huse : file.visited.2.table.uses.get? u.next =
      (Meaning.nameNote file.declarations u.scopes c.text).use := congrArg Note.use hnoted
  constructor
  · intro hpackage
    obtain ⟨id, span, name, heq, hid⟩ := Meaning.of_packageOf? hpackage
    obtain ⟨rfl, -, -⟩ := Expr.ident.inj heq
    obtain ⟨hlookup, himport, -⟩ := Meaning.nameNote_package (huse.symm.trans hid)
    exact ⟨hlookup, himport⟩
  · rintro ⟨hlookup, himport⟩
    simp [Meaning.packageOf?, huse, Meaning.nameNote, hlookup, himport]

/-- **A selector through a name is recorded as a function exactly if the name refers to a package,**
and then as a function of the package. -/
theorem useOf_selector (h : Reached file .expression c u)
    (hkind : c.kind = .selectorExpression) (hoperand : c.child? .operand = some operand)
    (hname : operand.kind = .identifier) (hmember : c.child? .member = some member) :
    ∃ fieldId, ((c.meaning file.declarations).lower.run u).1 = .select u.next c.span
        (.ident u.bump.next operand.span operand.text) ⟨fieldId, member.text, member.span⟩ ∧
      ∀ f, (lowerFile file).2.resolver.useOf fieldId = some (.function f) ↔
        u.scopes.lookup operand.text = none ∧ ∃ package,
          file.declarations.imports.get? operand.text = some package ∧
          f = .function package member.text := by
  obtain ⟨fieldId, hlower⟩ := Tree.lower_selector (d := file.declarations) (u := u) hkind hoperand
    hname hmember
  refine ⟨fieldId, hlower, fun f => ?_⟩
  have hreached : Reached file .expression operand u.bump := by
    refine .step h ?_
    rw [Tree.tasks, Tree.plan_selector hkind hoperand hmember]
    exact .here
  have hpackage := packageOf?_name hreached hname
  have hnoted := h.noted
  rw [hlower] at hnoted
  have huse : (lowerFile file).2.resolver.useOf fieldId = Meaning.selectedUse? file.declarations
      file.visited.2 (.ident u.bump.next operand.span operand.text) member.text :=
    congrArg Note.use hnoted.2
  rw [huse, Meaning.selectedUse?]
  cases hfound : Meaning.packageOf? file.visited.2.table
      (.ident u.bump.next operand.span operand.text) with
  | some package =>
    obtain ⟨hlookup, himport⟩ := (hpackage package).1 hfound
    constructor
    · intro hf
      obtain rfl := Referent.function.inj (Option.some.inj hf)
      exact ⟨hlookup, package, himport, rfl⟩
    · rintro ⟨-, package', himport', rfl⟩
      obtain rfl := Option.some.inj (himport.symm.trans himport')
      rfl
  | none =>
    constructor
    · intro hf
      -- a value that is selected is no function
      dsimp only at hf
      split at hf <;> cases hf
    · rintro ⟨hlookup, package, himport, -⟩
      exact absurd ((hpackage package).2 ⟨hlookup, himport⟩) (by simp [hfound])

/-- What is selected through a value belongs to a type. -/
theorem Meaning.receiver_of_selected {s : State} {e : Expr} {name : String} {f : FunctionId}
    (h : (selectedNote (selected? d s e name)).selection = some (.function f)) :
    f.receiver ≠ none := by
  rcases hselected : selected? d s e name with _ | type | g
  all_goals rw [hselected] at h
  · cases h
  · cases h
  · obtain rfl := Referent.function.inj (Option.some.inj h)
    unfold selected? at hselected
    split at hselected
    · cases hselected
    · obtain ⟨type, -, hmember⟩ := Option.bind_eq_some_iff.1 hselected
      obtain ⟨package, typeName, -, -, rfl⟩ := Declarations.eq_method_of_memberWithin? hmember
      simp [FunctionId.method]

end

/-! ## Nodes that are reached -/

namespace Task

variable {d : Declarations} {tasks : List Task} {s u : State} {role : Role} {t : Tree}

/-- Nodes that are taken one after the other are all come to. -/
theorem exists_meets_of_mem {ts : List Tree} (h : t ∈ ts) (s : State) :
    ∃ u, Meets d (takeAll role ts) s role t u := by
  obtain ⟨before, after, rfl⟩ := List.append_of_mem h
  rw [takeAll, List.map_append]
  exact ⟨_, Meets.append .here⟩

mutual

theorem exists_meets_of_taken : ∀ (task : Task) (rest : List Task) (s : State),
    (role, t) ∈ task.taken → ∃ u, Meets d (task :: rest) s role t u
  | take role t, rest, s, h => by
    rw [taken] at h
    obtain ⟨rfl, rfl⟩ := Prod.mk.inj (List.mem_singleton.1 h)
    exact ⟨s, .here⟩
  | declare bindings, rest, s, h => by
    rw [taken] at h
    cases h
  | define names declared values, rest, s, h => by
    rw [taken] at h
    obtain ⟨value, hvalue, heq⟩ := List.mem_map.1 h
    obtain ⟨rfl, rfl⟩ := Prod.mk.inj heq
    obtain ⟨u, hmeets⟩ := exists_meets_of_mem (d := d) hvalue s
    exact ⟨u, .value hmeets⟩
  | block tasks, rest, s, h => by
    rw [taken] at h
    obtain ⟨u, hmeets⟩ := exists_meets_of_takenIn tasks { s with scopes := s.scopes.push } h
    exact ⟨u, .inside hmeets⟩

/-- Work comes to every node that is taken in it. -/
theorem exists_meets_of_takenIn : ∀ (tasks : List Task) (s : State),
    (role, t) ∈ takenIn tasks → ∃ u, Meets d tasks s role t u
  | [], s, h => by cases h
  | task :: rest, s, h => by
    rcases List.mem_append.1 h with h | h
    · exact exists_meets_of_taken task rest s h
    · obtain ⟨u, hmeets⟩ := exists_meets_of_takenIn rest _ h
      exact ⟨u, .later hmeets⟩

end

/-- What is made at a point is left behind by the work. -/
theorem Meets.mem_nodesOfAll {node : Expr} (h : Meets d tasks s role t u)
    (hnode : node ∈ Expr.nodesOfAll ((t.does d role).run u).1) :
    node ∈ Expr.nodesOfAll ((runAll d tasks).run s).1 := by
  have hcons : ∀ (task : Task) (rest : List Task) (s : State),
      ((runAll d (task :: rest)).run s).1 =
        ((task.run d).run s).1 ++ ((runAll d rest).run ((task.run d).run s).2).1 :=
    fun _ _ _ => rfl
  induction h with
  | here =>
    rw [hcons]
    exact Expr.mem_nodesOfAll_append.2 (.inl hnode)
  | later _ ih =>
    rw [hcons]
    exact Expr.mem_nodesOfAll_append.2 (.inr (ih hnode))
  | inside _ ih =>
    rw [hcons]
    exact Expr.mem_nodesOfAll_append.2 (.inl (ih hnode))
  | @value names declared values rest s role t u _ ih =>
    obtain ⟨g, hg⟩ := run_define (d := d) names declared values
    rw [hcons, hg]
    exact Expr.mem_nodesOfAll_append.2 (.inl (ih hnode))

end Task

/-- **What is made at a point on the way through a file is a node of the expressions of the file.** -/
theorem Reached.mem_nodesOfAll {file t : Tree} {s : State} (h : Reached file .expression t s) :
    ((t.meaning file.declarations).lower.run s).1 ∈ Expr.nodesOfAll (lowerFile file).1 := by
  -- by induction on the way to the point: what a node leaves behind, the node around it leaves behind
  have hkept : ∀ {role t s}, Reached file role t s →
      ∀ node ∈ Expr.nodesOfAll ((t.does file.declarations role).run s).1,
        node ∈ Expr.nodesOfAll file.visited.1 := by
    intro role t s h
    induction h with
    | start hmeets =>
      intro node hnode
      rw [Tree.visited_eq]
      exact hmeets.mem_nodesOfAll hnode
    | @step role role' t c s u _ hmeets ih =>
      intro node hnode
      refine ih node ?_
      have hmem := hmeets.mem_nodesOfAll hnode
      cases role with
      | statement =>
        rw [Tree.does, Tree.visit_eq]
        exact hmem
      | expression =>
        have hparts : ((t.meaning file.declarations).lower.run s).1.parts =
            (t.prepared file.declarations s).1 := by
          rw [Tree.run_lower, Tree.run_finish]
          refine Tree.parts_made fun hleaf => ?_
          rw [Tree.prepared, Tree.plan_leaf hleaf]
          rfl
        have hnodes : node ∈ ((t.meaning file.declarations).lower.run s).1.nodes := by
          rw [Expr.nodes_eq, hparts]
          exact List.mem_cons_of_mem _ hmem
        exact Expr.mem_nodesOfAll.2 ⟨_, List.mem_singleton_self _, hnodes⟩
  refine mem_nodes_lowerFile.2 (hkept h _ ?_)
  exact Expr.mem_nodesOfAll.2 ⟨_, List.mem_singleton_self _, Expr.self_mem_nodes _⟩

/-- What is passed on from a node to the nodes that are taken in the work for it is passed on to all
nodes that are visited below it. -/
theorem Tree.exists_of_gather {d : Declarations} {P : Role → Tree → State → Prop}
    (hstep : ∀ {role role' t c s u}, P role t s →
      Task.Meets d (t.tasks d role) (role.enter s) role' c u → P role' c u) :
    ∀ role (t : Tree) (s : State), P role t s → ∀ role' c, (role', c) ∈ t.gather true role.slot →
      ∃ u, P role' c u := by
  refine does_induction d fun role t ih => ?_
  intro s h role' c hc
  rw [(perm_gather d role t).mem_iff, List.mem_append] at hc
  rcases hc with hc | hc
  · unfold mark at hc
    split at hc
    · cases hc
    · obtain ⟨rfl, rfl⟩ := Prod.mk.inj (List.mem_singleton.1 hc)
      exact ⟨s, h⟩
  · rw [if_neg (by simp), gatherAll, List.mem_flatMap] at hc
    obtain ⟨⟨role₁, t₁⟩, htaken, hc⟩ := hc
    obtain ⟨s₁, hmeets⟩ := Task.exists_meets_of_takenIn (d := d) _ (role.enter s) htaken
    exact ih role₁ t₁ htaken s₁ (hstep h hmeets) role' c hc

theorem exists_reached_of_ordered {file t : Tree} (h : t ∈ file.ordered) :
    ∃ s, Reached file .statement t s := by
  obtain ⟨s, hmeets⟩ := Task.exists_meets_of_mem (d := file.declarations) h {}
  exact ⟨s, .start hmeets⟩

/-! ## Imports behind declarations -/

/-- **Local names hide imports.** Behind a declaration of a name in a function, up to the end of its
block, a selector through the name is not recorded as a function of a package. It may be found to
select a method of a type only. -/
theorem import_hidden {file c operand member : Tree} {name : String} {u : State}
    (h : Hidden false file name .expression c u) (hname : name ≠ "_")
    (hkind : c.kind = .selectorExpression) (hoperand : c.child? .operand = some operand)
    (hident : operand.kind = .identifier) (htext : operand.text = name)
    (hmember : c.child? .member = some member) :
    ∃ e fieldId, ((c.meaning file.declarations).lower.run u).1 = e ∧
      e ∈ Expr.nodesOfAll (lowerFile file).1 ∧
      e = .select u.next c.span (.ident u.bump.next operand.span name)
        ⟨fieldId, member.text, member.span⟩ ∧
      (∀ f, (lowerFile file).2.resolver.useOf fieldId ≠ some (.function f)) ∧
      ∀ f, (lowerFile file).2.resolver.selection e.id = some (.function f) → f.receiver ≠ none := by
  subst htext
  obtain ⟨fieldId, hlower, huse⟩ := useOf_selector h.reached hkind hoperand hident hmember
  have hnoted := h.reached.noted
  rw [hlower] at hnoted
  have hselection : (lowerFile file).2.resolver.selection u.next = _ :=
    congrArg Note.selection hnoted.1
  refine ⟨_, fieldId, rfl, h.reached.mem_nodesOfAll, hlower, fun f hf => ?_, fun f hf => ?_⟩
  · exact h.bound hname ((huse f).1 hf).1
  · rw [hlower, Expr.id, hselection] at hf
    exact Meaning.receiver_of_selected hf

/-- Whether a node is a selector through a name. -/
def Tree.selectsFrom (name : String) (t : Tree) : Bool :=
  t.kind = .selectorExpression && (t.child? .member).isSome &&
    (t.child? .operand).any fun operand => operand.kind = .identifier && operand.text = name

theorem Tree.selectsFrom_iff {name : String} {t : Tree} : t.selectsFrom name = true ↔
    t.kind = .selectorExpression ∧ (∃ member, t.child? .member = some member) ∧
      ∃ operand, t.child? .operand = some operand ∧ operand.kind = .identifier ∧
        operand.text = name := by
  simp [selectsFrom, Option.isSome_iff_exists, Option.any_eq_true, and_assoc]

/-- A parameter that is named like an import. -/
def hidingParameter : String :=
  "package p\nimport \"log/slog\"\nfunc f(slog T)\x7bslog.Info(\"B\")\x7d"

theorem import_hidden_parameter : ∃ file, Tree.ofSource? hidingParameter = some file ∧
    file.declarations.imports.get? "slog" = some LoggingApi.slogPackage ∧
    ∃ c u id span nameId nameSpan field, Hidden false file "slog" .expression c u ∧
      ((c.meaning file.declarations).lower.run u).1 =
        .select id span (.ident nameId nameSpan "slog") field ∧
      ∀ f, (lowerFile file).2.resolver.useOf field.id ≠ some (.function f) := by
  have hfile : ∃ file ∈ Tree.ofSource? hidingParameter,
      file.declarations.imports.get? "slog" = some LoggingApi.slogPackage ∧
      ∃ t ∈ file.ordered, t.kind = .functionDeclaration ∧ "slog" ∈ t.parameterNames ∧
        ∃ body ∈ t.child? .body, ∃ x ∈ body.gather true .statement, x.1 = .expression ∧
          x.2.selectsFrom "slog" = true := by
    rw [Tree.ofSource?_eq]
    decide +kernel
  obtain ⟨file, hfile, himport, t, ht, hkind, hparameter, body, hbody, ⟨role, c⟩, hc, rfl, hselects⟩ :=
    hfile
  obtain ⟨s, hreached⟩ := exists_reached_of_ordered ht
  have hfunction : t.IsFunction .statement := .inl hkind
  have hbehind : ∃ s, Hidden false file "slog" .statement body s := by
    have hmem : (Role.statement, body) ∈ Task.takenIn (t.tasks file.declarations .statement) := by
      rw [Tree.tasks_of_isFunction hfunction, Tree.functionTasks, Option.mem_def.1 hbody]
      exact List.mem_singleton_self _
    obtain ⟨u, hmeets⟩ := Task.exists_meets_of_takenIn _ s hmem
    exact ⟨u, .parameter hreached hfunction hparameter hmeets⟩
  obtain ⟨s', hbehind⟩ := hbehind
  obtain ⟨u, hhidden⟩ := Tree.exists_of_gather (P := Hidden false file "slog") .inside .statement body s'
    hbehind .expression c hc
  obtain ⟨hkind, ⟨member, hmember⟩, operand, hoperand, hident, htext⟩ := Tree.selectsFrom_iff.1 hselects
  obtain ⟨e, fieldId, hlower, -, rfl, huse, -⟩ := import_hidden hhidden (by decide) hkind hoperand
    hident htext hmember
  exact ⟨file, hfile, himport, c, u, _, _, _, _, _, hhidden, hlower, huse⟩

/-- The nodes behind the declaration of a type with a name, if some statements begin with it. -/
def Tree.behindType (name : String) (t : Tree) : List (Role × Tree) :=
  match t.parts with
  | [] => []
  | a :: after =>
    if t.kind.isTransparent && a.kind = .typeDeclaration && a.parts.any (name ∈ ·.childTexts .name) then
      after.flatMap (·.gather true .statement)
    else []

theorem Hidden.of_behindType {file t c : Tree} {name : String} {role : Role} {s : State}
    (h : Reached file .statement t s) (hc : (role, c) ∈ t.behindType name) :
    ∃ u, Hidden true file name role c u := by
  unfold Tree.behindType at hc
  split at hc
  · cases hc
  · rename_i a after hparts
    split at hc
    · rename_i hall
      simp only [Bool.and_eq_true, decide_eq_true_eq, List.any_eq_true] at hall
      obtain ⟨⟨hkind, htype⟩, spec, hspec, hname⟩ := hall
      obtain ⟨statement, hstatement, hc⟩ := List.mem_flatMap.1 hc
      obtain ⟨u, hmeets⟩ := Task.exists_meets_of_mem (d := file.declarations) hstatement _
      have hsplit : t.parts = [] ++ a :: after := hparts
      have hbehind : Hidden true file name .statement statement u :=
        .statement h (.inr hkind) hsplit (.type rfl htype hspec hname) hmeets
      exact Tree.exists_of_gather (P := Hidden true file name) .inside .statement statement u hbehind
        role c hc
    · cases hc

/-- Whether an expression, if it is a selector through a name, is recorded as a function of a
package. -/
def isRecorded (types : Resolver) (name package : String) : Expr → Bool
  | .select _ _ (.ident _ _ text) field => text ≠ name ||
      types.useOf field.id = some (.function (.function package field.name))
  | _ => true

/-- A type of a function that is named like an import. -/
def hidingType : String :=
  "package p\nimport \"log/slog\"\ntype T string\nfunc(T)Info()\x7b\x7d\n" ++
    "func f()\x7btype slog=T;slog.Info(\"B\")\x7d\nfunc g()\x7bslog.Info(\"a\")\x7d"

/-- A type that is declared in a function does not hide an import: behind it, selectors through the name
are still recorded as functions of the package. -/
theorem recorded_behind_type : ∃ file, Tree.ofSource? hidingType = some file ∧
    file.declarations.imports.get? "slog" = some LoggingApi.slogPackage ∧
    ∃ c u id span nameId nameSpan field, Hidden true file "slog" .expression c u ∧
      ((c.meaning file.declarations).lower.run u).1 =
        .select id span (.ident nameId nameSpan "slog") field ∧
      (lowerFile file).2.resolver.useOf field.id =
        some (.function (.function LoggingApi.slogPackage field.name)) := by
  have hfile : ∃ file ∈ Tree.ofSource? hidingType,
      file.declarations.imports.get? "slog" = some LoggingApi.slogPackage ∧
      (∃ t ∈ file.ordered, ∃ x ∈ t.gather true .statement, x.1 = .statement ∧
        ∃ y ∈ x.2.behindType "slog", y.1 = .expression ∧ y.2.selectsFrom "slog" = true) ∧
      ∀ e ∈ Expr.nodesOfAll file.visited.1,
        isRecorded (lowerFile file).2.resolver "slog" LoggingApi.slogPackage e = true := by
    rw [Tree.ofSource?_eq]
    decide +kernel
  obtain ⟨file, hfile, himport, ⟨t, ht, ⟨role, list⟩, hlist, rfl, ⟨role', c⟩, hc, rfl, hselects⟩,
    hrecorded⟩ := hfile
  obtain ⟨s, hreached⟩ := exists_reached_of_ordered ht
  obtain ⟨s', hreached⟩ := Tree.exists_of_gather (P := Reached file) .step .statement t s hreached
    .statement list hlist
  obtain ⟨u, hhidden⟩ := Hidden.of_behindType hreached hc
  obtain ⟨hkind, ⟨member, hmember⟩, operand, hoperand, hident, htext⟩ := Tree.selectsFrom_iff.1 hselects
  have hnode := mem_nodes_lowerFile.1 hhidden.reached.mem_nodesOfAll
  obtain ⟨fieldId, hlower⟩ := Tree.lower_selector (d := file.declarations) (u := u) hkind hoperand
    hident hmember
  rw [htext] at hlower
  have hnoted := hrecorded _ hnode
  rw [hlower] at hnoted
  have huse : (lowerFile file).2.resolver.useOf fieldId =
      some (.function (.function LoggingApi.slogPackage member.text)) := by
    simpa [isRecorded] using hnoted
  exact ⟨file, hfile, himport, c, u, _, _, _, _, _, hhidden, hlower, huse⟩

end LogStyle.Go
