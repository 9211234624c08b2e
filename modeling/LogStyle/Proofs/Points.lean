import LogStyle.Proofs.Lasting
import LogStyle.Proofs.Reparsing

/-!
# The points of a file

A file is read node by node. At each point a node is taken in some role, and the state at that point
says which blocks are open and what is known so far. Every expression of a file is made at such a
point, and what is recorded about it there is never overwritten.

* `Task.Meets`: the nodes that some work comes to, with the states at these points.
* `Reached`: the nodes that are taken on the way through a file.
* `Reached.noted`: **the notes on an expression tell in the end what was known where it was made.**
* `exists_reached`: **every node of the expressions of a file is made at some point.**
-/

namespace LogStyle.Go

open Lower

namespace Task

/-- Some work comes to a node, which it takes in a role and in a state. -/
inductive Meets (d : Declarations) : List Task → State → Role → Tree → State → Prop where
  | here {role : Role} {t : Tree} {rest : List Task} {s : State} :
      Meets d (take role t :: rest) s role t s
  | later {task : Task} {rest : List Task} {s : State} {role : Role} {t : Tree} {u : State} :
      Meets d rest ((task.run d).run s).2 role t u → Meets d (task :: rest) s role t u
  | inside {tasks rest : List Task} {s : State} {role : Role} {t : Tree} {u : State} :
      Meets d tasks { s with scopes := s.scopes.push } role t u →
        Meets d (block tasks :: rest) s role t u
  | value {names : List String} {declared : Option StaticType} {values : List Tree}
      {rest : List Task} {s : State} {role : Role} {t : Tree} {u : State} :
      Meets d (takeAll .expression values) s role t u →
        Meets d (define names declared values :: rest) s role t u

variable {d : Declarations} {tasks : List Task} {s u : State} {role : Role} {t : Tree}

theorem Meets.mem_takenIn (h : Meets d tasks s role t u) : (role, t) ∈ takenIn tasks := by
  induction h with
  | here => simp [takenIn, taken]
  | later _ ih => exact List.mem_append_right _ ih
  | inside _ ih =>
    refine List.mem_append_left _ ?_
    rwa [taken]
  | value _ ih =>
    refine List.mem_append_left _ ?_
    rwa [taken, ← takenIn_takeAll]

/-- The notes that are written at a point stay to the end of the work. -/
theorem Meets.within (h : Meets d tasks s role t u) (hs : s.Blank) :
    u.Blank ∧ Window.Within ⟨u.next, ((t.does d role).run u).2⟩ ⟨s.next, ((runAll d tasks).run s).2⟩ := by
  induction h with
  | @here role t rest s =>
    refine ⟨hs, ?_⟩
    have hblank := (Tree.keeps_does d role t s hs).blank
    have hrest := (Tree.keeps_tasks d rest _ hblank).extends_
    rw [runAll, run]
    exact Window.within_of_extends hrest (Nat.le_refl _)
  | @later task rest s role t u _ ih =>
    obtain ⟨hext, hblank, -⟩ := Tree.keeps_task d task s hs
    obtain ⟨hu, hwithin⟩ := ih hblank
    refine ⟨hu, hwithin.trans ?_⟩
    rw [runAll]
    exact Window.within_of_extends (.refl _) hext.next_le
  | @inside tasks rest s role t u _ ih =>
    obtain ⟨hu, hwithin⟩ := ih hs
    refine ⟨hu, hwithin.trans ?_⟩
    -- closing the block changes no notes, and neither does what follows
    have hblank := (Tree.keeps_task d (block tasks) s hs).blank
    have hrest := (Tree.keeps_tasks d rest _ hblank).extends_
    rw [runAll]
    rw [run] at hrest ⊢
    exact Window.within_of_extends ⟨hrest.next_le, hrest.note⟩ (Nat.le_refl _)
  | @value names declared values rest s role t u _ ih =>
    obtain ⟨hu, hwithin⟩ := ih hs
    refine ⟨hu, hwithin.trans ?_⟩
    obtain ⟨g, hg⟩ := run_define (d := d) names declared values
    have hblank := (Tree.keeps_task d (define names declared values) s hs).blank
    have hrest := (Tree.keeps_tasks d rest _ hblank).extends_
    rw [runAll, run_bind]
    rw [hg] at hrest ⊢
    exact Window.within_of_extends ⟨hrest.next_le, hrest.note⟩ (Nat.le_refl _)

theorem exists_meets_takeAll (d : Declarations) {node : Expr} (role : Role) (ts : List Tree) (s : State)
    (h : node ∈ Expr.nodesOfAll ((runAll d (takeAll role ts)).run s).1) :
    ∃ t u, Meets d (takeAll role ts) s role t u ∧ node ∈ Expr.nodesOfAll ((t.does d role).run u).1 := by
  induction ts generalizing s with
  | nil =>
    rw [takeAll, List.map_nil, runAll] at h
    cases h
  | cons t ts ih =>
    rw [takeAll, List.map_cons, runAll, ← takeAll, run] at h
    rcases Expr.mem_nodesOfAll_append.1 h with h | h
    · exact ⟨t, s, .here, h⟩
    · obtain ⟨c, u, hmeets, hnode⟩ := ih _ h
      exact ⟨c, u, .later hmeets, hnode⟩

mutual

/-- What work leaves behind is left behind at some point. -/
theorem exists_meets_run (d : Declarations) {node : Expr} : ∀ (task : Task) (rest : List Task)
    (s : State), node ∈ Expr.nodesOfAll ((task.run d).run s).1 →
      ∃ role t u, Meets d (task :: rest) s role t u ∧ node ∈ Expr.nodesOfAll ((t.does d role).run u).1
  | take role t, rest, s, h => ⟨role, t, s, .here, by rwa [run] at h⟩
  | declare bindings, rest, s, h => by
    rw [run] at h
    cases h
  | define names declared values, rest, s, h => by
    obtain ⟨g, hg⟩ := run_define (d := d) names declared values
    rw [hg] at h
    obtain ⟨t, u, hmeets, hnode⟩ := exists_meets_takeAll d .expression values s h
    exact ⟨.expression, t, u, .value hmeets, hnode⟩
  | block tasks, rest, s, h => by
    rw [run] at h
    obtain ⟨role, t, u, hmeets, hnode⟩ := exists_meets d tasks { s with scopes := s.scopes.push } h
    exact ⟨role, t, u, .inside hmeets, hnode⟩

theorem exists_meets (d : Declarations) {node : Expr} : ∀ (tasks : List Task) (s : State),
    node ∈ Expr.nodesOfAll ((runAll d tasks).run s).1 →
      ∃ role t u, Meets d tasks s role t u ∧ node ∈ Expr.nodesOfAll ((t.does d role).run u).1
  | [], s, h => by
    rw [runAll] at h
    cases h
  | task :: rest, s, h => by
    rw [runAll] at h
    rcases Expr.mem_nodesOfAll_append.1 h with h | h
    · exact exists_meets_run d task rest s h
    · obtain ⟨role, t, u, hmeets, hnode⟩ := exists_meets d rest _ h
      exact ⟨role, t, u, .later hmeets, hnode⟩

end

end Task

namespace Tree

/-- What a file declares. -/
def declarations (file : Tree) : Declarations := .ofTrees file.parts

theorem visited_eq (file : Tree) : file.visited =
    (Task.runAll file.declarations (Task.takeAll .statement file.ordered)).run {} := by
  rw [visited, meanings_eq, ← Task.runAll_visit]
  rfl

end Tree

/-- The state in which the work for a node begins: an expression is given its identity first. -/
def Role.enter (role : Role) (s : State) : State :=
  match role with
  | .statement => s
  | .expression => s.bump

/-- On the way through a file a node is taken in a role and in a state. -/
inductive Reached (file : Tree) : Role → Tree → State → Prop where
  | start {role : Role} {t : Tree} {s : State} :
      Task.Meets file.declarations (Task.takeAll .statement file.ordered) {} role t s →
        Reached file role t s
  | step {role role' : Role} {t c : Tree} {s u : State} : Reached file role t s →
      Task.Meets file.declarations (t.tasks file.declarations role) (role.enter s) role' c u →
        Reached file role' c u

namespace Reached

variable {file t : Tree} {role : Role} {s : State}

/-- The notes that are written at a point are there in the end. -/
theorem within (h : Reached file role t s) : s.Blank ∧ Window.Within
    ⟨s.next, ((t.does file.declarations role).run s).2⟩ ⟨0, file.visited.2⟩ := by
  induction h with
  | start h =>
    rw [Tree.visited_eq]
    exact h.within fun _ _ => rfl
  | @step role role' t c s u _ hmeets ih =>
    obtain ⟨hs, hwithin⟩ := ih
    cases role with
    | statement =>
      obtain ⟨hu, hwithin'⟩ := hmeets.within hs
      rw [Tree.does, Tree.visit_eq] at hwithin
      exact ⟨hu, hwithin'.trans hwithin⟩
    | expression =>
      obtain ⟨hu, hwithin'⟩ := hmeets.within (Tree.blank_bump hs)
      -- finishing the node writes notes on the node only
      have hcontinues := (Tree.finished_lower file.declarations t hs).continues
      rw [← Tree.run_lower] at hcontinues
      refine ⟨hu, (hwithin'.trans ?_).trans hwithin⟩
      rintro i ⟨hlo, hhi⟩
      exact ⟨⟨Nat.le_of_succ_le hlo, Nat.lt_of_lt_of_le hhi hcontinues.next_le⟩,
        hcontinues.note i hhi (Nat.ne_of_gt hlo)⟩

/-- **The notes on an expression tell in the end what was known where it was made.** -/
theorem noted (h : Reached file .expression t s) : Noted file.declarations s.scopes file.visited.2
    ((t.meaning file.declarations).lower.run s).1 := by
  obtain ⟨hs, hwithin⟩ := h.within
  have hfinished := Tree.finished_lower file.declarations t hs
  have hunfinished := Tree.unfinished_of_keeps (Tree.keeps_tasks file.declarations
    (t.plan file.declarations).2) hs
  obtain ⟨hcontinues, -, -, hown, hparts, hnoted⟩ := hfinished
  rw [← Tree.run_lower] at hcontinues hown hparts hnoted
  have hfinal : ∀ i, s.next ≤ i → i < ((t.meaning file.declarations).lower.run s).2.next →
      file.visited.2.note i = ((t.meaning file.declarations).lower.run s).2.note i :=
    fun i hlo hhi => (hwithin i ⟨hlo, hhi⟩).2
  have hnoted' := hnoted.mono (u := file.visited.2)
    (fun i hi => hfinal i (hown i hi).1 (hown i hi).2) (fun p hp => by
      obtain ⟨hlo, hhi⟩ := hunfinished.covers p (hparts hp)
      exact hfinal p.id (Nat.le_of_lt hlo) (Nat.lt_of_lt_of_le hhi hcontinues.next_le))
  -- only a name looks at the blocks that are open, and nothing is done for it before
  generalize he : ((t.meaning file.declarations).lower.run s).1 = e at hnoted' ⊢
  cases e with
  | ident id span name =>
    obtain ⟨-, -, hscopes⟩ := Tree.of_lower_ident he
    rwa [hscopes] at hnoted'
  | _ => exact hnoted'

end Reached

/-- Sorting the expressions of a file keeps their nodes. -/
theorem mem_nodes_lowerFile {file : Tree} {node : Expr} :
    node ∈ Expr.nodesOfAll (lowerFile file).1 ↔ node ∈ Expr.nodesOfAll file.visited.1 := by
  rw [Expr.mem_nodesOfAll, Expr.mem_nodesOfAll, Tree.lowerFile_eq]
  simp only [List.mem_mergeSort]

/-- **Every node of the expressions of a file is made at some point.** -/
theorem exists_reached {file : Tree} {node : Expr}
    (h : node ∈ Expr.nodesOfAll (lowerFile file).1) :
    ∃ t s, Reached file .expression t s ∧
      ((t.meaning file.declarations).lower.run s).1 = node := by
  -- each node that is taken leaves behind only what is made at points below it
  have hbelow : ∀ role t s, Reached file role t s →
      node ∈ Expr.nodesOfAll ((t.does file.declarations role).run s).1 →
      ∃ t' s', Reached file .expression t' s' ∧
        ((t'.meaning file.declarations).lower.run s').1 = node := by
    intro role t
    refine Tree.does_induction (P := fun role t => ∀ s, Reached file role t s →
      node ∈ Expr.nodesOfAll ((t.does file.declarations role).run s).1 →
      ∃ t' s', Reached file .expression t' s' ∧
        ((t'.meaning file.declarations).lower.run s').1 = node) file.declarations ?_ role t
    intro role t ih s hreached hnode
    have htasks : node ∈ Expr.nodesOfAll
        ((Task.runAll file.declarations (t.tasks file.declarations role)).run (role.enter s)).1 →
        ∃ t' s', Reached file .expression t' s' ∧
          ((t'.meaning file.declarations).lower.run s').1 = node := by
      intro hnode
      obtain ⟨role', c, u, hmeets, hnode'⟩ := Task.exists_meets file.declarations _ _ hnode
      exact ih role' c hmeets.mem_takenIn u (.step hreached hmeets) hnode'
    cases role with
    | statement =>
      rw [Tree.does, Tree.visit_eq] at hnode
      exact htasks hnode
    | expression =>
      obtain ⟨e, he, hnode⟩ := Expr.mem_nodesOfAll.1 hnode
      obtain rfl := List.mem_singleton.1 he
      rw [Expr.nodes_eq] at hnode
      rcases List.mem_cons.1 hnode with rfl | hnode
      · exact ⟨t, s, hreached, rfl⟩
      · obtain ⟨hs, -⟩ := hreached.within
        have hparts := (Tree.finished_lower file.declarations t hs).parts
        rw [← Tree.run_lower] at hparts
        obtain ⟨p, hp, hnode⟩ := Expr.mem_nodesOfAll.1 hnode
        exact htasks (Expr.mem_nodesOfAll.2 ⟨p, hparts hp, hnode⟩)
  rw [mem_nodes_lowerFile, Tree.visited_eq] at h
  obtain ⟨role, t, s, hmeets, hnode⟩ := Task.exists_meets _ _ _ h
  exact hbelow role t s (.start hmeets) hnode

end LogStyle.Go
