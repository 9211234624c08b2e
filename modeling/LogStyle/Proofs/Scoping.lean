import LogStyle.Proofs.Recognition

/-!
# Lexical scoping

Blocks are opened and closed in pairs, names are bound in the innermost block, and an expression binds
nothing outside of itself. So the names in sight at some point of a file are those that were bound
before in the blocks around that point, and no others.

* `Scopes.replay`: the names in sight after some names were bound and some blocks were entered.
* `Task.Binds`: the names that some work binds in the block that it stands in.
* `Task.Comes`: the points that some work comes to, each with the names bound before in the blocks
  around it. Points are where a node is taken, and where a block is about to be closed.
* `Task.Binds.scopes_runAll`: **some work binds these names in the innermost block, and leaves the
  other blocks as they are.**
* `Task.Comes.scopes_eq`: **the names in sight at a point are those bound in the blocks around it.**
* `scopes_restored`: what follows for nodes, for the closing of blocks and for the names of a file.
-/

namespace LogStyle.Go

open Lower

/-- A name with its type, if that is known. -/
abbrev Binding := String × Option StaticType

/-- What adds to the names in sight: a name is bound, or a block is entered. -/
inductive Step where
  | bind (name : String) (type : Option StaticType)
  | enter

/-- Names that are bound one after the other. -/
def Step.binds (names : List Binding) : List Step :=
  names.map fun b => .bind b.1 b.2

namespace Scopes

def step (s : Scopes) : Step → Scopes
  | .bind name type => s.declare name type
  | .enter => s.push

/-- The names in sight after some steps. -/
def replay (s : Scopes) (steps : List Step) : Scopes := steps.foldl step s

variable {s : Scopes} {names : List Binding}

theorem replay_append (s : Scopes) (as bs : List Step) :
    s.replay (as ++ bs) = (s.replay as).replay bs :=
  List.foldl_append

theorem replay_binds_append (s : Scopes) (as bs : List Binding) :
    s.replay (Step.binds (as ++ bs)) = (s.replay (Step.binds as)).replay (Step.binds bs) := by
  rw [Step.binds, List.map_append, replay_append]
  rfl

/-- A name is bound in the innermost block. -/
theorem tail_frames_declare (s : Scopes) (name : String) (type : Option StaticType) :
    (s.declare name type).frames.tail = s.frames.tail := by
  unfold declare
  by_cases hblank : name = "_"
  · rw [if_pos hblank]
  · rw [if_neg hblank]
    cases h : s.nested <;> simp [frames, h]

theorem nested_declare (h : s.nested ≠ []) (name : String) (type : Option StaticType) :
    (s.declare name type).nested ≠ [] ∧ (s.declare name type).pop = s.pop := by
  unfold declare
  by_cases hblank : name = "_"
  · rw [if_pos hblank]
    exact ⟨h, rfl⟩
  · rw [if_neg hblank]
    cases hnested : s.nested with
    | nil => exact absurd hnested h
    | cons frame outer => simp [pop, hnested]

theorem tail_frames_replay (s : Scopes) (names : List Binding) :
    (s.replay (Step.binds names)).frames.tail = s.frames.tail := by
  induction names generalizing s with
  | nil => rfl
  | cons b names ih => exact (ih (s.declare b.1 b.2)).trans (tail_frames_declare s b.1 b.2)

/-- Names that are bound in a block are gone when it is closed. -/
theorem nested_replay (h : s.nested ≠ []) (names : List Binding) :
    (s.replay (Step.binds names)).nested ≠ [] ∧ (s.replay (Step.binds names)).pop = s.pop := by
  induction names generalizing s with
  | nil => exact ⟨h, rfl⟩
  | cons b names ih =>
    obtain ⟨hopen, hpop⟩ := nested_declare h b.1 b.2
    obtain ⟨hopen', hpop'⟩ := ih hopen
    exact ⟨hopen', hpop'.trans hpop⟩

theorem nested_push (s : Scopes) : s.push.nested ≠ [] := List.cons_ne_nil _ _

end Scopes

/-! ## The names that are bound -/

namespace Task

/-- The names of a declaration with their types, where the values are there. -/
def defined (names : List String) (declared : Option StaticType) (values : List Expr × State) :
    List Binding :=
  names.zip ((List.range names.length).map fun i =>
    declared.or ((Meaning.valueTypes values.2 values.1 names.length)[i]?).join)

/-- The names that some work binds in the block in which it is done. What is bound in a block inside
of it, or on the way through an expression, does not count. -/
inductive Binds (d : Declarations) : List Task → State → List Binding → Prop where
  | nil {s : State} : Binds d [] s []
  | expression {t : Tree} {rest : List Task} {s : State} {bs : List Binding} :
      Binds d rest ((t.does d .expression).run s).2 bs → Binds d (take .expression t :: rest) s bs
  | statement {t : Tree} {rest : List Task} {s : State} {bs cs : List Binding} :
      Binds d (t.work d) s bs → Binds d rest ((t.does d .statement).run s).2 cs →
        Binds d (take .statement t :: rest) s (bs ++ cs)
  | declare {bs cs : List Binding} {rest : List Task} {s : State} :
      Binds d rest (((declare bs).run d).run s).2 cs → Binds d (declare bs :: rest) s (bs ++ cs)
  | define {names : List String} {declared : Option StaticType} {values : List Tree}
      {rest : List Task} {s : State} {cs : List Binding} :
      Binds d rest (((define names declared values).run d).run s).2 cs →
        Binds d (define names declared values :: rest) s
          (defined names declared ((runAll d (takeAll .expression values)).run s) ++ cs)
  | block {tasks rest : List Task} {s : State} {bs : List Binding} :
      Binds d rest (((block tasks).run d).run s).2 bs → Binds d (block tasks :: rest) s bs

variable {d : Declarations} {tasks rest : List Task} {s u : State} {bs : List Binding}

theorem exists_binds_of (s : State)
    (h : ∀ c, (Role.statement, c) ∈ takenIn tasks → ∀ s, ∃ bs, Binds d (c.work d) s bs) :
    ∃ bs, Binds d tasks s bs := by
  induction tasks generalizing s with
  | nil => exact ⟨[], .nil⟩
  | cons task rest ih =>
    have hrest : ∀ s, ∃ bs, Binds d rest s bs := fun s =>
      ih s fun c hc => h c (List.mem_append_right _ hc)
    obtain ⟨cs, hcs⟩ := hrest ((task.run d).run s).2
    cases task with
    | take role t =>
      rw [run] at hcs
      cases role with
      | expression => exact ⟨cs, .expression hcs⟩
      | statement =>
        obtain ⟨bs, hbs⟩ := h t (List.mem_append_left _ (by simp [taken])) s
        exact ⟨bs ++ cs, .statement hbs hcs⟩
    | declare bs => exact ⟨bs ++ cs, .declare hcs⟩
    | define names declared values => exact ⟨_, .define hcs⟩
    | block tasks => exact ⟨cs, .block hcs⟩

/-- All work binds some names, if only none. -/
theorem exists_binds (d : Declarations) (tasks : List Task) (s : State) :
    ∃ bs, Binds d tasks s bs := by
  have hnode : ∀ role (t : Tree), role = Role.statement → ∀ s, ∃ bs, Binds d (t.work d) s bs := by
    refine Tree.does_induction d ?_
    rintro role t ih rfl s
    exact exists_binds_of s fun c hc => ih .statement c hc rfl
  exact exists_binds_of s fun c _ => hnode .statement c rfl

/-- The names bound by the first piece of work come first. -/
theorem Binds.uncons {task : Task} (h : Binds d (task :: rest) s bs) :
    ∃ as cs, Binds d [task] s as ∧ Binds d rest ((task.run d).run s).2 cs ∧ bs = as ++ cs := by
  -- a piece of work on its own binds what it binds before the rest
  have halone : ∀ {as : List Binding}, Binds d [task] s (as ++ []) → Binds d [task] s as := by
    intro as h
    rwa [List.append_nil] at h
  cases h with
  | expression hrest => exact ⟨[], _, .expression .nil, by rwa [run], rfl⟩
  | statement hwork hrest => exact ⟨_, _, halone (.statement hwork .nil), by rwa [run], rfl⟩
  | declare hrest => exact ⟨_, _, halone (.declare .nil), hrest, rfl⟩
  | define hrest => exact ⟨_, _, halone (.define .nil), hrest, rfl⟩
  | block hrest => exact ⟨[], _, .block .nil, hrest, rfl⟩

/-- Work that binds nothing in the block in which it is done. -/
def Silent (task : Task) : Prop := (∃ t, task = take .expression t) ∨ ∃ tasks, task = block tasks

theorem Binds.eq_nil (h : Binds d tasks s bs) (hsilent : ∀ task ∈ tasks, task.Silent) : bs = [] := by
  induction h with
  | nil => rfl
  | expression _ ih => exact ih fun task htask => hsilent task (List.mem_cons_of_mem _ htask)
  | block _ ih => exact ih fun task htask => hsilent task (List.mem_cons_of_mem _ htask)
  | statement => simpa [Silent] using hsilent _ List.mem_cons_self
  | declare => simpa [Silent] using hsilent _ List.mem_cons_self
  | define => simpa [Silent] using hsilent _ List.mem_cons_self

theorem scopes_declareAll (bs : List Binding) (s : State) :
    ((declareAll (bs.map (·.1)) (bs.map (·.2))).run s).2.scopes =
      s.scopes.replay (Step.binds bs) := by
  induction bs generalizing s with
  | nil => rfl
  | cons b bs ih => exact ih { s with scopes := s.scopes.declare b.1 b.2 }

theorem scopes_define (names : List String) (declared : Option StaticType) (values : List Tree)
    (s : State) :
    (((define names declared values).run d).run s).2.scopes =
      ((runAll d (takeAll .expression values)).run s).2.scopes.replay
        (Step.binds (defined names declared ((runAll d (takeAll .expression values)).run s))) := by
  rw [run, Meaning.visitDeclaration, ← runAll_lower]
  simp only [run_bind, run_get, run_pure]
  generalize (runAll d (takeAll .expression values)).run s = after
  -- there are as many types as names
  have hlength : names.length = ((List.range names.length).map fun i =>
      declared.or ((Meaning.valueTypes after.2 after.1 names.length)[i]?).join).length := by
    rw [List.length_map, List.length_range]
  have hdeclare := scopes_declareAll (defined names declared after) after.2
  have hnames := List.map_fst_zip (Nat.le_of_eq hlength)
  have htypes := List.map_snd_zip (Nat.le_of_eq hlength.symm)
  rw [defined, hnames, htypes] at hdeclare
  exact hdeclare

theorem scopes_takeAll {ts : List Tree}
    (h : ∀ t ∈ ts, ∀ s, ((t.does d .expression).run s).2.scopes = s.scopes) (s : State) :
    ((runAll d (takeAll .expression ts)).run s).2.scopes = s.scopes := by
  induction ts generalizing s with
  | nil => rfl
  | cons t ts ih =>
    rw [runAll_takeAll_cons]
    have hrest := ih (fun c hc => h c (List.mem_cons_of_mem _ hc)) ((t.does d .expression).run s).2
    exact hrest.trans (h t List.mem_cons_self s)

/-- A node leaves the names in sight alone as an expression, and binds the names that the work for it
binds as a statement. -/
def Scoped (d : Declarations) (role : Role) (t : Tree) : Prop :=
  match role with
  | .expression => ∀ s, ((t.does d .expression).run s).2.scopes = s.scopes
  | .statement => ∀ s bs, Binds d (t.work d) s bs →
      ((t.does d .statement).run s).2.scopes = s.scopes.replay (Step.binds bs)

/-- A block that is closed again leaves the names in sight as they were. -/
theorem scopes_inBlock {x : Lower (List Expr)}
    (h : ∀ s : State, ∃ bs, (x.run s).2.scopes = s.scopes.replay (Step.binds bs)) (s : State) :
    ((inBlock x).run s).2.scopes = s.scopes := by
  obtain ⟨bs, hbs⟩ := h { s with scopes := s.scopes.push }
  have hpop := (Scopes.nested_replay s.scopes.nested_push bs).2
  change (x.run { s with scopes := s.scopes.push }).2.scopes.pop = s.scopes
  rw [hbs, hpop]
  rfl

mutual

/-- A piece of work binds its names if the nodes that are taken in it do. -/
theorem scopes_run : ∀ task : Task, (∀ role c, (role, c) ∈ task.taken → Scoped d role c) →
    ∀ s bs, Binds d [task] s bs → ((task.run d).run s).2.scopes = s.scopes.replay (Step.binds bs)
  | take .expression t, h, s, bs, hbinds => by
    have hscoped := h .expression t (by simp [taken])
    rw [hbinds.eq_nil (by simp [Silent]), run]
    exact hscoped s
  | take .statement t, h, s, bs, hbinds => by
    have hscoped := h .statement t (by simp [taken])
    cases hbinds with
    | statement hwork hrest =>
      cases hrest
      rw [List.append_nil, run]
      exact hscoped s _ hwork
  | declare bindings, _, s, bs, hbinds => by
    cases hbinds with
    | declare hrest =>
      cases hrest
      rw [List.append_nil, run]
      exact scopes_declareAll bindings s
  | define names declared values, h, s, bs, hbinds => by
    cases hbinds with
    | define hrest =>
      cases hrest
      have hvalues := scopes_takeAll (fun t ht => h .expression t (List.mem_map_of_mem ht)) s
      rw [List.append_nil, scopes_define, hvalues]
  | block tasks, h, s, bs, hbinds => by
    rw [hbinds.eq_nil (by simp [Silent]), run]
    refine scopes_inBlock (fun u => ?_) s
    obtain ⟨cs, hcs⟩ := exists_binds d tasks u
    refine ⟨cs, scopes_runAll tasks (fun role c hc => h role c ?_) u cs hcs⟩
    rwa [taken]

theorem scopes_runAll : ∀ tasks : List Task, (∀ role c, (role, c) ∈ takenIn tasks → Scoped d role c) →
    ∀ s bs, Binds d tasks s bs →
      ((runAll d tasks).run s).2.scopes = s.scopes.replay (Step.binds bs)
  | [], _, s, bs, hbinds => by
    cases hbinds
    rfl
  | task :: rest, h, s, bs, hbinds => by
    obtain ⟨as, cs, has, hcs, rfl⟩ := hbinds.uncons
    have htask := scopes_run task (fun role c hc => h role c (by simp [takenIn, hc])) s as has
    have hrest := scopes_runAll rest (fun role c hc => h role c (by simp [takenIn, hc])) _ cs hcs
    rw [runAll, Scopes.replay_binds_append, ← htask]
    exact hrest

end

theorem silent_takeAll (ts : List Tree) : ∀ task ∈ takeAll .expression ts, task.Silent := by
  intro task htask
  obtain ⟨t, -, rfl⟩ := List.mem_map.1 htask
  exact .inl ⟨t, rfl⟩

end Task

namespace Tree

variable {d : Declarations} {t : Tree} {s : State}

/-- For an expression, other expressions are taken, or the body of a function. -/
theorem silent_plan (d : Declarations) (t : Tree) : ∀ task ∈ (t.plan d).2, task.Silent := by
  have hnone : ∀ task ∈ ([] : List Task), task.Silent := fun _ htask => by cases htask
  have htake := Task.silent_takeAll
  have hfunction : ∀ task ∈ t.functionTasks d, task.Silent := by
    intro task htask
    exact .inr ⟨_, List.mem_singleton.1 htask⟩
  unfold plan
  generalize t.kind = kind
  cases kind
  case interpretedStringLiteral => exact hnone
  case rawStringLiteral => exact hnone
  case identifier => exact hnone
  case parenthesizedExpression =>
    cases t.parts with
    | nil => exact hnone
    | cons inner rest => exact htake [inner]
  case binaryExpression =>
    cases t.child? .left <;> cases t.child? .right <;> exact htake _
  case selectorExpression =>
    cases t.child? .operand <;> cases t.child? .member <;> exact htake _
  case callExpression => cases t.child? .function <;> exact htake _
  case funcLiteral => exact hfunction
  all_goals exact htake _

/-- To finish an expression is to write notes. -/
theorem scopes_finish (d : Declarations) (t : Tree) (id : NodeId) (form : Form) (es : List Expr)
    (s : State) : ((t.finish d id form es).run s).2.scopes = s.scopes := by
  have htype : ∀ (type : Option StaticType) (s : State),
      ((recordType? id type).run s).2.scopes = s.scopes := by
    intro type s
    cases type <;> rfl
  cases form with
  | name =>
    simp only [finish, Meaning.resolveIdentifier, run_bind, run_get]
    rcases s.scopes.lookup t.text with _ | _ | type
    · cases d.imports.get? t.text with
      | some path => rfl
      | none => cases d.functions.contains t.text <;> rfl
    · rfl
    · rfl
  | paren =>
    rcases es with _ | ⟨inner, _ | ⟨next, rest⟩⟩
    · rfl
    · exact htype _ s
    · rfl
  | binary operator =>
    rcases es with _ | ⟨left, _ | ⟨right, _ | ⟨next, rest⟩⟩⟩
    · rfl
    · rfl
    · exact htype _ s
    · rfl
  | select member =>
    rcases es with _ | ⟨operand, _ | ⟨next, rest⟩⟩
    · rfl
    · simp only [finish, run_bind, run_get]
      generalize Meaning.selectedUse? d s operand member.text = use
      rcases Meaning.selected? d s operand member.text with _ | _ | _ <;> cases use <;> rfl
    · rfl
  | call =>
    rcases es with _ | ⟨callee, args⟩
    · rfl
    · unfold finish
      rw [run_bind, run_get]
      rcases Meaning.callResults d s callee with _ | ⟨single, _ | ⟨next, rest⟩⟩ <;> rfl
  | unary operator =>
    rcases es with _ | ⟨first, rest⟩
    · exact htype _ s
    · exact htype _ s
  | typed type => exact htype type s
  | literal | other => rfl

/-- **Every node is scoped**: what it binds, it binds in the block in which it stands. -/
theorem scoped_does (d : Declarations) : ∀ role (t : Tree), Task.Scoped d role t := by
  refine does_induction d fun role t ih => ?_
  have htasks := Task.scopes_runAll (t.tasks d role) ih
  cases role with
  | statement =>
    intro s bs hbs
    rw [does, visit_eq]
    exact htasks s bs hbs
  | expression =>
    intro s
    obtain ⟨bs, hbs⟩ := Task.exists_binds d (t.plan d).2 s.bump
    have hprepared : (t.prepared d s).2.scopes = s.scopes := by
      have hrun := htasks s.bump bs hbs
      rw [hbs.eq_nil (silent_plan d t)] at hrun
      exact hrun
    have hrun : ((t.does d .expression).run s).2 = ((t.meaning d).lower.run s).2 := rfl
    rw [hrun, run_lower, scopes_finish, hprepared]

end Tree

namespace Task

variable {d : Declarations} {tasks rest : List Task} {s u : State} {bs : List Binding}

/-- **Some work binds its names in the innermost block, and leaves the other blocks as they are.** -/
theorem Binds.scopes_runAll (h : Binds d tasks s bs) :
    ((runAll d tasks).run s).2.scopes = s.scopes.replay (Step.binds bs) :=
  Task.scopes_runAll tasks (fun role c _ => Tree.scoped_does d role c) s bs h

end Task

/-- When a node is about to be finished as an expression, the names in sight are what they were. -/
theorem Tree.scopes_prepared (d : Declarations) (t : Tree) (s : State) :
    (t.prepared d s).2.scopes = s.scopes := by
  obtain ⟨bs, hbs⟩ := Task.exists_binds d (t.plan d).2 s.bump
  have hscopes := hbs.scopes_runAll
  rw [hbs.eq_nil (silent_plan d t)] at hscopes
  exact hscopes

namespace Task

variable {d : Declarations} {tasks rest : List Task} {s u : State}

/-! ## The points of some work -/

/-- What happens at a point. -/
inductive Event where
  /-- A node is taken in a role. -/
  | take (role : Role) (t : Tree) (s : State)
  /-- The innermost block is about to be closed. -/
  | close (s : State)

/-- The state at a point. -/
def Event.state : Event → State
  | take _ _ s => s
  | close s => s

/-- Some work comes to a point. The steps are the names that were bound before in the blocks around
this point, from the outermost block inwards, and the blocks that were entered on the way there. -/
inductive Comes (d : Declarations) : List Task → State → List Step → Event → Prop where
  | here {role : Role} {t : Tree} {rest : List Task} {s : State} :
      Comes d (take role t :: rest) s [] (.take role t s)
  | closing {tasks rest : List Task} {s : State} {bs : List Binding} :
      Binds d tasks { s with scopes := s.scopes.push } bs →
        Comes d (block tasks :: rest) s (.enter :: Step.binds bs)
          (.close ((runAll d tasks).run { s with scopes := s.scopes.push }).2)
  | later {task : Task} {rest : List Task} {s : State} {bs : List Binding} {steps : List Step}
      {event : Event} : Binds d [task] s bs → Comes d rest ((task.run d).run s).2 steps event →
        Comes d (task :: rest) s (Step.binds bs ++ steps) event
  | inside {tasks rest : List Task} {s : State} {steps : List Step} {event : Event} :
      Comes d tasks { s with scopes := s.scopes.push } steps event →
        Comes d (block tasks :: rest) s (.enter :: steps) event
  | value {names : List String} {declared : Option StaticType} {values : List Tree}
      {rest : List Task} {s : State} {steps : List Step} {event : Event} :
      Comes d (takeAll .expression values) s steps event →
        Comes d (define names declared values :: rest) s steps event
  | node {role : Role} {t : Tree} {rest : List Task} {s : State} {steps : List Step}
      {event : Event} : Comes d (t.tasks d role) (role.enter s) steps event →
        Comes d (take role t :: rest) s steps event

variable {steps : List Step} {event : Event} {role : Role} {t : Tree}

/-- **The names in sight at a point are those that were bound before in the blocks around it.** -/
theorem Comes.scopes_eq (h : Comes d tasks s steps event) :
    event.state.scopes = s.scopes.replay steps := by
  induction h with
  | here => rfl
  | closing hbinds => exact hbinds.scopes_runAll
  | @later task rest s bs steps event hbinds _ ih =>
    have htask := hbinds.scopes_runAll
    rw [runAll_singleton] at htask
    rw [Scopes.replay_append, ← htask]
    exact ih
  | inside _ ih => exact ih
  | value _ ih => exact ih
  | @node role t rest s steps event _ ih =>
    cases role with
    | statement => exact ih
    | expression => exact ih

/-- A block that is about to be closed is not the file. -/
theorem Comes.nested_ne_nil (h : Comes d tasks s steps (.close u)) : u.scopes.nested ≠ [] := by
  generalize hevent : Event.close u = event at h
  induction h with
  | here => cases hevent
  | @closing tasks rest s bs hbinds =>
    cases hevent
    rw [hbinds.scopes_runAll]
    exact (Scopes.nested_replay s.scopes.nested_push bs).1
  | later _ _ ih => exact ih hevent
  | inside _ ih => exact ih hevent
  | value _ ih => exact ih hevent
  | node _ ih => exact ih hevent

theorem Meets.exists_comes (h : Meets d tasks s role t u) :
    ∃ steps, Comes d tasks s steps (.take role t u) := by
  induction h with
  | here => exact ⟨[], .here⟩
  | @later task rest s role t u _ ih =>
    obtain ⟨bs, hbs⟩ := exists_binds d [task] s
    obtain ⟨steps, hsteps⟩ := ih
    exact ⟨_, .later hbs hsteps⟩
  | inside _ ih =>
    obtain ⟨steps, hsteps⟩ := ih
    exact ⟨_, .inside hsteps⟩
  | value _ ih =>
    obtain ⟨steps, hsteps⟩ := ih
    exact ⟨steps, .value hsteps⟩

/-- A point in the work for a node is a point in the work in which the node is taken. -/
theorem Comes.trans {steps' : List Step} {event : Event} (h : Comes d tasks s steps (.take role t u))
    (h' : Comes d (t.tasks d role) (role.enter u) steps' event) :
    Comes d tasks s (steps ++ steps') event := by
  generalize hevent : Event.take role t u = point at h
  induction h with
  | here =>
    cases hevent
    exact .node h'
  | closing => cases hevent
  | later hbinds _ ih =>
    rw [List.append_assoc]
    exact .later hbinds (ih hevent)
  | inside _ ih => exact .inside (ih hevent)
  | value _ ih => exact .value (ih hevent)
  | node _ ih => exact .node (ih hevent)

end Task

/-- Every point of a file is come to on the way through its top level. -/
theorem Reached.exists_comes {file t : Tree} {role : Role} {s : State} (h : Reached file role t s) :
    ∃ steps, Task.Comes file.declarations (Task.takeAll .statement file.ordered) {} steps
      (.take role t s) := by
  induction h with
  | start hmeets => exact hmeets.exists_comes
  | step _ hmeets ih =>
    obtain ⟨steps, hsteps⟩ := ih
    obtain ⟨steps', hsteps'⟩ := hmeets.exists_comes
    exact ⟨steps ++ steps', hsteps.trans hsteps'⟩

/-! ## What follows -/

/-- The nodes that are blocks: functions, statements with a block of their own, and cases. -/
def Kind.opensBlock : Kind → Bool
  | functionDeclaration | methodDeclaration | block | ifStatement | forStatement
  | expressionSwitchStatement | typeSwitchStatement | selectStatement | expressionCase | defaultCase
  | typeCase | communicationCase => true
  | _ => false

theorem Tree.work_of_opensBlock {t : Tree} (h : t.kind.opensBlock = true) (d : Declarations) :
    ∃ tasks, t.work d = [.block tasks] := by
  unfold work
  generalize t.kind = kind at h
  cases kind
  all_goals first
    | exact ⟨_, rfl⟩
    | cases h

/-- **Lexical scoping is restored everywhere.** Whatever the state, an expression leaves the open blocks
as they were, and so does a node that is a block; any other node changes at most the innermost block.
Whenever a block is closed it is not the file, and whenever a node is taken, the names in sight are
those that were bound before in the blocks around it. So what is recorded about the names of a file
is what these bindings say about them. -/
theorem scopes_restored :
    (∀ (d : Declarations) (t : Tree) (s : State),
      ((t.meaning d).lower.run s).2.scopes = s.scopes ∧
      (t.kind.opensBlock = true → ((t.meaning d).visit.run s).2.scopes = s.scopes) ∧
      ((t.meaning d).visit.run s).2.scopes.frames.tail = s.scopes.frames.tail ∧
      (∀ role steps u, Task.Comes d [.take role t] s steps (.close u) → u.scopes.nested ≠ []) ∧
      ∀ role role' c steps u, Task.Comes d [.take role t] s steps (.take role' c u) →
        u.scopes = s.scopes.replay steps) ∧
    ∀ (file : Tree) (id : NodeId) (span : Span) (name : String),
      .ident id span name ∈ Expr.nodesOfAll (lowerFile file).1 →
      ∃ c steps u, Task.Comes file.declarations (Task.takeAll .statement file.ordered) {} steps
          (.take .expression c u) ∧
        c.kind = .identifier ∧ c.span = span ∧ c.text = name ∧ u.next = id ∧
        (lowerFile file).2.resolver.useOf id =
          (Meaning.nameNote file.declarations (Scopes.replay {} steps) name).use ∧
        (lowerFile file).2.resolver.typeOf id =
          (Meaning.nameNote file.declarations (Scopes.replay {} steps) name).type := by
  refine ⟨fun d t s => ⟨?_, fun hblock => ?_, ?_, ?_, ?_⟩, fun file id span name hnode => ?_⟩
  · exact Tree.scoped_does d .expression t s
  · obtain ⟨tasks, hwork⟩ := Tree.work_of_opensBlock hblock d
    rw [Tree.visit_eq, hwork]
    exact (Task.Binds.block .nil).scopes_runAll
  · obtain ⟨bs, hbs⟩ := Task.exists_binds d (t.work d) s
    rw [Tree.visit_eq, hbs.scopes_runAll, Scopes.tail_frames_replay]
  · exact fun role steps u hcomes => hcomes.nested_ne_nil
  · exact fun role role' c steps u hcomes => hcomes.scopes_eq
  · obtain ⟨c, u, hreached, hlower⟩ := exists_reached hnode
    obtain ⟨steps, hcomes⟩ := hreached.exists_comes
    have hscopes : u.scopes = Scopes.replay {} steps := hcomes.scopes_eq
    have hnoted := hreached.noted
    obtain ⟨hkind, htext, -⟩ := Tree.of_lower_ident hlower
    rw [Tree.lower_identifier hkind] at hlower hnoted
    obtain ⟨hid, hspan, -⟩ := Expr.ident.inj hlower
    simp only [Noted, hscopes, hid, htext] at hnoted
    exact ⟨c, steps, u, hcomes, hkind, hspan, htext, hid, congrArg Note.use hnoted,
      congrArg Note.type hnoted⟩

/-- Whether an expression is a name. -/
def isNameOf (name : String) : Expr → Bool
  | .ident _ _ text => text = name
  | _ => false

theorem isNameOf_iff {name : String} {e : Expr} :
    isNameOf name e = true ↔ ∃ id span, e = .ident id span name := by
  cases e with
  | ident id span text => simp [isNameOf]
  | _ => simp [isNameOf]

/-- A name that hides an import in a block of its own. -/
def hiddenInBlock : String :=
  "package p\nimport \"log/slog\"\ntype T struct \x7b \x7d\nfunc f() \x7b\n\t\x7b\n" ++
    "\t\tslog := T\x7b\x7d\n\t\tslog.Info(\"Shadowed!\")\n\t\x7d\n" ++
    "\tslog.Warn(\"after block!\")\n\x7d"

/-- A name that hides an import in a block of its own, and is seen again behind the block. -/
theorem scopes_restored_shadowed : ∃ (file : Tree) (inner outer : NodeId) (span span' : Span),
    Tree.ofSource? hiddenInBlock = some file ∧
    .ident inner span "slog" ∈ Expr.nodesOfAll (lowerFile file).1 ∧
    (∃ type, (lowerFile file).2.resolver.useOf inner = some (.value type)) ∧
    .ident outer span' "slog" ∈ Expr.nodesOfAll (lowerFile file).1 ∧
    (lowerFile file).2.resolver.useOf outer = some (.package "log/slog") ∧
    ∃ c steps u, Task.Comes file.declarations (Task.takeAll .statement file.ordered) {} steps
        (.take .expression c u) ∧ c.span = span' ∧
      (Scopes.replay {} steps).lookup "slog" = none := by
  have hfile : ∃ file ∈ Tree.ofSource? hiddenInBlock,
      ∃ e ∈ Expr.nodesOfAll file.visited.1, ∃ e' ∈ Expr.nodesOfAll file.visited.1,
        isNameOf "slog" e = true ∧ isNameOf "slog" e' = true ∧
        file.visited.2.table.uses.get? e.id = some (.value (.named "p" "T" (.other "struct"))) ∧
        file.visited.2.table.uses.get? e'.id = some (.package "log/slog") := by
    rw [Tree.ofSource?_eq]
    decide +kernel
  obtain ⟨file, hfile, e, he, e', he', hname, hname', huse, huse'⟩ := hfile
  obtain ⟨inner, span, rfl⟩ := isNameOf_iff.1 hname
  obtain ⟨outer, span', rfl⟩ := isNameOf_iff.1 hname'
  obtain ⟨c, steps, u, hcomes, -, hspan, -, -, hnoted, -⟩ :=
    scopes_restored.2 file outer span' "slog" (mem_nodes_lowerFile.2 he')
  have hlookup := (Meaning.nameNote_package (hnoted.symm.trans huse')).1
  exact ⟨file, inner, outer, span, span', hfile, mem_nodes_lowerFile.2 he, ⟨_, huse⟩,
    mem_nodes_lowerFile.2 he', huse', c, steps, u, hcomes, hspan, hlookup⟩

end LogStyle.Go
