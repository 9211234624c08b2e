import LogStyle.Proofs.Work

/-!
# Induction on the work

The nodes that are taken in the work for a node lie below it, except that a statement may be an
expression.

* `Tree.Near`: where the nodes are that are taken in the work for a node.
* `Tree.does_induction`: **what holds of a node whenever it holds of the nodes that are taken in the
  work for it holds of all nodes.**
-/

namespace LogStyle.Go

namespace Task

mutual

/-- The nodes that are taken in a piece of work. -/
def taken : Task → List (Role × Tree)
  | take role t => [(role, t)]
  | declare _ => []
  | define _ _ values => values.map fun value => (.expression, value)
  | block tasks => takenIn tasks

/-- The nodes that are taken in some work. -/
def takenIn : List Task → List (Role × Tree)
  | [] => []
  | task :: rest => task.taken ++ takenIn rest

end

theorem takenIn_append (xs ys : List Task) : takenIn (xs ++ ys) = takenIn xs ++ takenIn ys := by
  induction xs with
  | nil => rfl
  | cons x xs ih => rw [List.cons_append, takenIn, takenIn, ih, List.append_assoc]

theorem takenIn_takeAll (role : Role) (ts : List Tree) :
    takenIn (takeAll role ts) = ts.map fun t => (role, t) := by
  induction ts with
  | nil => rfl
  | cons t ts ih => rw [takeAll, List.map_cons, takenIn, taken, ← takeAll, ih]; rfl

end Task

namespace Tree

variable {d : Declarations} {t c : Tree} {field : Field} {role : Role}

/-- Whether a node is the call of a function. -/
def isApplied (t : Tree) : Bool := t.kind = .callExpression && (t.child? .function).isSome

/-- The nodes that may be taken in the work for a node: nodes below it, those in a list of
expressions below it and, if it is the call of a function, its arguments. -/
inductive Near (t : Tree) : Tree → Prop where
  | child {c : Tree} : c ∈ t.children → (t.isApplied = true → c.field ≠ some .arguments) → Near t c
  | listed {list c : Tree} : t.isApplied = false → list ∈ t.children → c ∈ list.listed → Near t c
  | argument {arguments c : Tree} : t.isApplied = true → arguments ∈ t.children →
      arguments.field = some .arguments → c ∈ arguments.parts → Near t c

theorem Near.sizeOf_lt (h : t.Near c) : sizeOf c < sizeOf t := by
  cases h with
  | child h _ => exact sizeOf_lt_of_mem_children h
  | @listed list _ _ hlist h =>
    have hlt := sizeOf_lt_of_mem_children hlist
    unfold Tree.listed at h
    split at h
    · have hlt' := sizeOf_lt_of_mem_children (mem_children_of_mem_parts h)
      omega
    · rwa [List.mem_singleton.1 h]
  | argument _ harguments _ h =>
    have hlt := sizeOf_lt_of_mem_children harguments
    have hlt' := sizeOf_lt_of_mem_children (mem_children_of_mem_parts h)
    omega

section

variable (happlied : t.isApplied = false)
include happlied

theorem near_child (h : c ∈ t.children) : t.Near c :=
  .child h fun htrue => by rw [happlied] at htrue; cases htrue

theorem near_part (h : c ∈ t.parts) : t.Near c := near_child happlied (mem_children_of_mem_parts h)

theorem near_operand (h : c ∈ t.operands) : t.Near c := near_part happlied (List.mem_of_mem_filter h)

theorem near_toList (h : c ∈ (t.child? field).toList) : t.Near c :=
  near_child happlied (mem_children_of_child? (Option.mem_toList.1 h))

theorem near_listedIn (h : c ∈ t.listedIn field) : t.Near c := by
  unfold listedIn at h
  cases hchild : t.child? field with
  | none => simp [hchild] at h
  | some list =>
    rw [hchild] at h
    exact .listed happlied (mem_children_of_child? hchild) h

theorem near_functionTasks (h : (role, c) ∈ Task.takenIn (t.functionTasks d)) : t.Near c := by
  simp only [functionTasks, Task.takenIn, Task.taken, Task.takenIn_takeAll, List.nil_append,
    List.append_nil, List.mem_map, Prod.mk.injEq] at h
  obtain ⟨body, hbody, -, rfl⟩ := h
  exact near_toList happlied hbody

end

theorem mem_takeAll {role' : Role} {ts : List Tree}
    (h : (role, c) ∈ Task.takenIn (Task.takeAll role' ts)) : c ∈ ts := by
  rw [Task.takenIn_takeAll, List.mem_map] at h
  obtain ⟨t, ht, heq⟩ := h
  obtain ⟨rfl, rfl⟩ := Prod.mk.inj heq
  exact ht

/-- The nodes that are taken in the work for an expression are near to it. -/
theorem near_of_mem_plan (h : (role, c) ∈ Task.takenIn (t.plan d).2) : t.Near c := by
  have hnone : (role, c) ∈ Task.takenIn [] → t.Near c := fun h => by cases h
  have hrest : t.isApplied = false →
      (role, c) ∈ Task.takenIn (Task.takeAll .expression t.operands) → t.Near c :=
    fun happlied h => near_operand happlied (mem_takeAll h)
  by_cases hcall : t.kind = .callExpression
  · simp only [plan, hcall] at h
    cases hfunction : t.child? .function with
    | none =>
      rw [hfunction] at h
      exact hrest (by simp [isApplied, hfunction]) h
    | some function =>
      rw [hfunction] at h
      rcases List.mem_cons.1 (mem_takeAll h) with rfl | hc
      · refine .child (mem_children_of_child? hfunction) fun _ => ?_
        simp [field_of_child? hfunction]
      · cases harguments : t.child? .arguments with
        | none => simp [harguments] at hc
        | some arguments =>
          rw [harguments] at hc
          exact .argument (by simp [isApplied, hcall, hfunction]) (mem_children_of_child? harguments)
            (field_of_child? harguments) (List.mem_of_mem_filter hc)
  · have happlied : t.isApplied = false := by simp [isApplied, hcall]
    have hrest := hrest happlied
    unfold plan at h
    generalize t.kind = kind at h hcall
    cases kind
    case interpretedStringLiteral => exact hnone h
    case rawStringLiteral => exact hnone h
    case identifier => exact hnone h
    case parenthesizedExpression =>
      dsimp only at h
      split at h
      · exact hnone h
      · rename_i inner rest hparts
        rw [List.mem_singleton.1 (mem_takeAll h)]
        exact near_part happlied (by simp [hparts])
    case binaryExpression =>
      dsimp only at h
      split at h
      · rename_i left right hleft hright
        have hc := mem_takeAll h
        simp only [List.mem_cons, List.not_mem_nil, or_false] at hc
        rcases hc with rfl | rfl
        · exact near_child happlied (mem_children_of_child? hleft)
        · exact near_child happlied (mem_children_of_child? hright)
      · exact hrest h
    case selectorExpression =>
      dsimp only at h
      split at h
      · rename_i operand member hoperand _
        rw [List.mem_singleton.1 (mem_takeAll h)]
        exact near_child happlied (mem_children_of_child? hoperand)
      · exact hrest h
    case callExpression => exact absurd rfl hcall
    case funcLiteral => exact near_functionTasks happlied h
    all_goals exact hrest h

/-- The nodes that are taken in the work for a statement are near to it, or it is an expression. -/
theorem near_of_mem_work (h : (role, c) ∈ Task.takenIn (t.work d)) :
    t.Near c ∨ (role = .expression ∧ c = t) := by
  have hexpr : (role, c) ∈ Task.takenIn [.take .expression t] → role = .expression ∧ c = t := by
    simp [Task.takenIn, Task.taken]
  by_cases hcall : t.kind = .callExpression
  · simp only [work, hcall] at h
    exact .inr (hexpr h)
  have happlied : t.isApplied = false := by simp [isApplied, hcall]
  have hnone : (role, c) ∈ Task.takenIn [] → t.Near c := fun h => by cases h
  have hparts : (role, c) ∈ Task.takenIn (Task.takeAll .statement t.parts) → t.Near c :=
    fun h => near_part happlied (mem_takeAll h)
  have hblock : (role, c) ∈ Task.takenIn [.block (Task.takeAll .statement t.parts)] → t.Near c :=
    fun h => hparts (by simpa [Task.takenIn, Task.taken] using h)
  have hdefine : ∀ {names declared field},
      (role, c) ∈ Task.takenIn [.define names declared (t.listedIn field)] → t.Near c := by
    intro names declared field h
    simp only [Task.takenIn, Task.taken, List.append_nil, List.mem_map, Prod.mk.injEq] at h
    obtain ⟨value, hvalue, -, rfl⟩ := h
    exact near_listedIn happlied hvalue
  have hone : ∀ {role' field},
      (role, c) ∈ Task.takenIn (Task.takeAll role' (t.child? field).toList) → t.Near c :=
    fun h => near_toList happlied (mem_takeAll h)
  have hreceiver : (role, c) ∈ Task.takenIn (Task.takeAll .expression (t.child? .right).toList
      ++ if t.hasToken ":=" then [.declare ((t.namesIn .left).map fun name => (name, none))]
        else Task.takeAll .expression (t.listedIn .left)) → t.Near c := by
    intro h
    rw [Task.takenIn_append, List.mem_append] at h
    rcases h with h | h
    · exact hone h
    · split at h
      · simp [Task.takenIn, Task.taken] at h
      · exact near_listedIn happlied (mem_takeAll h)
  have hswitch : (role, c) ∈ Task.takenIn
      [.block (Task.takeAll .statement (t.child? .initializer).toList
        ++ Task.takeAll .expression (t.child? .value).toList
        ++ .declare ((t.namesIn .alias).map fun name => (name, none))
        :: Task.takeAll .statement
          (t.children.filter fun c => c.kind = .typeCase || c.kind = .defaultCase))] → t.Near c := by
    intro h
    simp only [Task.takenIn, Task.taken, List.append_nil, Task.takenIn_append, List.mem_append,
      List.nil_append] at h
    rcases h with (h | h) | h
    · exact hone h
    · exact hone h
    · exact near_child happlied (List.mem_of_mem_filter (mem_takeAll h))
  unfold work at h
  generalize t.kind = kind at h
  cases kind
  all_goals first
    | exact .inl (hparts h)
    | exact .inr (hexpr h)
    | exact .inl (hnone h)
    | exact .inl (hblock h)
    | exact .inl (near_functionTasks happlied h)
    | exact .inl (hdefine h)
    | exact .inl (hreceiver h)
    | exact .inl (hswitch h)

/-- **What holds of a node whenever it holds of the nodes that are taken in the work for it holds of
all nodes.** -/
theorem does_induction {P : Role → Tree → Prop} (d : Declarations)
    (h : ∀ role t, (∀ role' c, (role', c) ∈ Task.takenIn (t.tasks d role) → P role' c) → P role t) :
    ∀ role t, P role t := by
  have hsize : ∀ n t, sizeOf t < n → ∀ role, P role t := by
    intro n
    induction n with
    | zero => intro t ht; omega
    | succ n ih =>
      intro t ht
      have hbelow : ∀ {role' c}, sizeOf c < sizeOf t → P role' c := by
        intro role' c hc
        exact ih c (by omega) role'
      have hexpression : P .expression t :=
        h .expression t fun role' c hc => hbelow (near_of_mem_plan hc).sizeOf_lt
      intro role
      cases role with
      | expression => exact hexpression
      | statement =>
        -- a statement may be an expression, which is already dealt with
        refine h .statement t fun role' c hc => ?_
        rcases near_of_mem_work hc with hnear | ⟨rfl, rfl⟩
        · exact hbelow hnear.sizeOf_lt
        · exact hexpression
  exact fun role t => hsize _ t (Nat.lt_succ_self _) role

end Tree

end LogStyle.Go
