import LogStyle.Proofs.Placement
import LogStyle.Proofs.Points
import Mathlib.Data.List.Perm.Basic

/-!
# Nodes that are visited

Calls are looked for in statements, in the bodies of functions and function literals, in the values of
variables and constants, on the right of `:=` and on both sides of `=`, in the parts of switches, and
in the operands and arguments of expressions that are no types. The nodes that are visited for this
are written down here in document order. In what order they are really taken is another matter.

* `Tree.search`: which of the nodes right below a node are visited.
* `Tree.gather`: the nodes that are visited, in document order.
* `Tree.perm_gatherIn`: they can be looked for one sort after the other.
* `Tree.found_work`, `Tree.found_plan`: what is taken in the work for a node is what is visited below it.
* `Tree.order`: the nodes in the order in which they are taken.
* `Tree.perm_order`: **these are the nodes that are visited.**
-/

namespace LogStyle.Go

open Lower

/-! ## Nodes that are visited -/

/-- Where a node stands. -/
inductive Slot where
  | statement
  | expression
  /-- As a list of expressions, which a single expression may stand for. -/
  | list
  /-- As the arguments of a call. -/
  | arguments
  deriving DecidableEq

def Role.slot : Role → Slot
  | .statement => .statement
  | .expression => .expression

/-- Which of some nodes are visited: the first one of each of some sorts, and all of a further sort. -/
structure Search where
  once : List ((Tree → Bool) × Slot)
  always : Tree → Option Slot

namespace Search

/-- The first node in each of some roles. -/
def roles (roles : List (Field × Slot)) : Search where
  once := roles.map fun (role, slot) => (fun c => c.field = some role, slot)
  always _ := none

/-- All nodes of a sort. -/
def every (sort : Tree → Bool) (slot : Slot) : Search where
  once := []
  always c := if sort c then some slot else none

/-- Where a node is visited, if it comes next. -/
def slots (s : Search) (c : Tree) : List Slot :=
  (s.once.filter (·.1 c)).map (·.2) ++ (s.always c).toList

/-- What is still looked for after a node. -/
def after (s : Search) (c : Tree) : Search := { s with once := s.once.filter (!·.1 c) }

end Search

namespace Tree

/-- Whether a node is a case of a type switch. -/
def isCase (t : Tree) : Bool := t.kind = .typeCase || t.kind = .defaultCase

/-- What a node stands for: an expression may be a statement, and a list of itself. -/
def settle (t : Tree) : Slot → Slot
  | .statement => if t.kind.isExpression then .expression else .statement
  | .list => if t.kind = .expressionList then .list else .expression
  | slot => slot

/-- Which of the nodes right below a node are visited. -/
def search (t : Tree) : Slot → Search
  | .statement =>
    match t.kind with
    | .functionDeclaration | .methodDeclaration => .roles [(.body, .statement)]
    | .typeSwitchStatement =>
      { Search.roles [(.initializer, .statement), (.value, .expression)] with
        always := fun c => if c.isCase then some .statement else none }
    | .shortVarDeclaration => .roles [(.right, .list)]
    | .varSpec | .constSpec => .roles [(.value, .list)]
    | .rangeClause | .receiveStatement =>
      if t.hasToken ":=" then .roles [(.right, .expression)]
      else .roles [(.left, .list), (.right, .expression)]
    | .packageClause | .importDeclaration | .typeDeclaration => .roles []
    | kind => if kind.isType then .roles [] else .every isNamed .statement
  | .expression =>
    match t.kind with
    | .interpretedStringLiteral | .rawStringLiteral | .identifier => .roles []
    | .parenthesizedExpression => ⟨[(isNamed, .expression)], fun _ => none⟩
    | .binaryExpression =>
      if (t.child? .left).isSome && (t.child? .right).isSome then
        .roles [(.left, .expression), (.right, .expression)]
      else .every (fun c => c.isNamed && !c.kind.isType) .expression
    | .selectorExpression =>
      if (t.child? .operand).isSome && (t.child? .member).isSome then .roles [(.operand, .expression)]
      else .every (fun c => c.isNamed && !c.kind.isType) .expression
    | .callExpression =>
      if (t.child? .function).isSome then .roles [(.function, .expression), (.arguments, .arguments)]
      else .every (fun c => c.isNamed && !c.kind.isType) .expression
    | .funcLiteral => .roles [(.body, .statement)]
    | _ => .every (fun c => c.isNamed && !c.kind.isType) .expression
  | .list => .every isNamed .expression
  | .arguments => .every (fun c => c.isNamed && !c.kind.isType) .expression

/-- A node as what it stands for. Lists are no more than their parts. -/
def marks (t : Tree) : Slot → List (Role × Tree)
  | .statement => [(.statement, t)]
  | .expression => [(.expression, t)]
  | _ => []

mutual

/-- The nodes that are visited from a node on, in document order. Expressions are entered or not. -/
def gather (deep : Bool) : Slot → Tree → List (Role × Tree)
  | slot, .node field kind span text children =>
    let t := node field kind span text children
    t.marks (t.settle slot) ++
      if t.settle slot = .expression && !deep then []
      else gatherIn deep (t.search (t.settle slot)) children

def gatherIn (deep : Bool) : Search → List Tree → List (Role × Tree)
  | _, [] => []
  | s, c :: rest => (s.slots c).flatMap (fun slot => c.gather deep slot) ++ gatherIn deep (s.after c) rest

end

end Tree

/-! ## What is found -/

/-- What is found among some nodes, sort by sort. -/
def Search.found (deep : Bool) (s : Search) (cs : List Tree) : List (Role × Tree) :=
  (s.once.flatMap fun x => (cs.find? x.1).toList.flatMap fun c => c.gather deep x.2) ++
    cs.flatMap fun c => (s.always c).toList.flatMap fun slot => c.gather deep slot

/-- The nodes that are visited from some nodes on, one after the other. -/
def gatherAll (deep : Bool) (visits : List (Role × Tree)) : List (Role × Tree) :=
  visits.flatMap fun x => x.2.gather deep x.1.slot

theorem gatherAll_append (deep : Bool) (xs ys : List (Role × Tree)) :
    gatherAll deep (xs ++ ys) = gatherAll deep xs ++ gatherAll deep ys := by
  simp [gatherAll]

theorem gatherAll_map (deep : Bool) (role : Role) (ts : List Tree) :
    gatherAll deep (ts.map fun t => (role, t)) = ts.flatMap fun t => t.gather deep role.slot := by
  simp [gatherAll, List.flatMap_map]

theorem gatherAll_takeAll (deep : Bool) (role : Role) (ts : List Tree) :
    gatherAll deep (Task.takenIn (Task.takeAll role ts)) =
      ts.flatMap fun t => t.gather deep role.slot := by
  rw [Task.takenIn_takeAll, gatherAll_map]

namespace Tree

variable {deep : Bool} {d : Declarations} {t c : Tree} {slot : Slot} {role : Role}

theorem gather_eq (deep : Bool) (slot : Slot) (t : Tree) :
    t.gather deep slot = t.marks (t.settle slot) ++
      if t.settle slot = .expression && !deep then []
      else gatherIn deep (t.search (t.settle slot)) t.children := by
  obtain ⟨field, kind, span, text, children⟩ := t
  rw [gather]
  rfl

open scoped List in
/-- **In document order the same nodes are found.** -/
theorem perm_gatherIn (deep : Bool) (s : Search) (cs : List Tree) :
    (gatherIn deep s cs).Perm (s.found deep cs) := by
  induction cs generalizing s with
  | nil =>
    have hnone : s.found deep [] = [] := by simp [Search.found]
    rw [gatherIn, hnone]
  | cons c cs ih =>
    -- a sort that the first node is of is settled by it, and the others are looked for further on
    let first := fun x : (Tree → Bool) × Slot => c.gather deep x.2
    let later := fun x : (Tree → Bool) × Slot =>
      (cs.find? x.1).toList.flatMap fun c => c.gather deep x.2
    let both := fun x : (Tree → Bool) × Slot =>
      ((c :: cs).find? x.1).toList.flatMap fun c => c.gather deep x.2
    have hfirst : (s.once.filter (·.1 c)).flatMap first = (s.once.filter (·.1 c)).flatMap both := by
      refine List.flatMap_congr fun x hx => ?_
      have hc : x.1 c = true := (List.mem_filter.1 hx).2
      simp [first, both, hc]
    have hlater : (s.once.filter (!·.1 c)).flatMap later = (s.once.filter (!·.1 c)).flatMap both := by
      refine List.flatMap_congr fun x hx => ?_
      have hc : x.1 c = false := by simpa using (List.mem_filter.1 hx).2
      simp [later, both, hc]
    have hsplit : ((s.once.filter (·.1 c)).flatMap both ++ (s.once.filter (!·.1 c)).flatMap both).Perm
        (s.once.flatMap both) := by
      rw [← List.flatMap_append]
      exact (List.filter_append_perm _ s.once).flatMap_right both
    let here := (s.always c).toList.flatMap fun slot => c.gather deep slot
    let further := cs.flatMap fun c => (s.always c).toList.flatMap fun slot => c.gather deep slot
    have hgather : gatherIn deep s (c :: cs) =
        (s.once.filter (·.1 c)).flatMap first ++ here ++ gatherIn deep (s.after c) cs := by
      rw [gatherIn, Search.slots, List.flatMap_append, List.flatMap_map]
    have hrest : (gatherIn deep (s.after c) cs).Perm
        ((s.once.filter (!·.1 c)).flatMap later ++ further) := ih (s.after c)
    have hregroup : ∀ xs ys zs ws : List (Role × Tree),
        (xs ++ ys ++ (zs ++ ws)).Perm (xs ++ zs ++ (ys ++ ws)) := by
      intro xs ys zs ws
      simp only [List.append_assoc]
      refine List.Perm.append_left xs ?_
      rw [← List.append_assoc, ← List.append_assoc]
      exact List.perm_append_comm.append_right ws
    calc gatherIn deep s (c :: cs)
      _ = (s.once.filter (·.1 c)).flatMap first ++ here ++ gatherIn deep (s.after c) cs := hgather
      _ ~ (s.once.filter (·.1 c)).flatMap first ++ here ++
          ((s.once.filter (!·.1 c)).flatMap later ++ further) := hrest.append_left _
      _ ~ (s.once.filter (·.1 c)).flatMap first ++ (s.once.filter (!·.1 c)).flatMap later ++
          (here ++ further) := hregroup _ _ _ _
      _ = (s.once.filter (·.1 c)).flatMap both ++ (s.once.filter (!·.1 c)).flatMap both ++
          (here ++ further) := by rw [hfirst, hlater]
      _ ~ s.once.flatMap both ++ (here ++ further) := hsplit.append_right _
      _ = s.found deep (c :: cs) := rfl

/-! ## What is taken is what is visited -/

theorem found_roles (roles : List (Field × Slot)) : (Search.roles roles).found deep t.children =
    roles.flatMap fun x => (t.child? x.1).toList.flatMap fun c => c.gather deep x.2 := by
  have hnone : (t.children.flatMap fun c : Tree => ((Search.roles roles).always c).toList.flatMap
      fun slot => c.gather deep slot) = [] := by
    simp [Search.roles]
  rw [Search.found, hnone, List.append_nil, Search.roles, List.flatMap_map]
  rfl

theorem found_every (deep : Bool) (sort : Tree → Bool) (slot : Slot) (cs : List Tree) :
    (Search.every sort slot).found deep cs = (cs.filter sort).flatMap fun c => c.gather deep slot := by
  rw [Search.found]
  change cs.flatMap _ = _
  induction cs with
  | nil => rfl
  | cons c cs ih =>
    rw [List.flatMap_cons, ih]
    by_cases hc : sort c <;> simp [Search.every, hc]

theorem gatherIn_every (sort : Tree → Bool) (slot : Slot) (cs : List Tree) :
    gatherIn deep (.every sort slot) cs = (cs.filter sort).flatMap fun c => c.gather deep slot := by
  induction cs with
  | nil => rfl
  | cons c cs ih =>
    have hafter : (Search.every sort slot).after c = .every sort slot := rfl
    rw [gatherIn, hafter, ih]
    by_cases hc : sort c <;> simp [Search.slots, Search.every, hc]

theorem gather_arguments (t : Tree) :
    t.gather deep .arguments = t.operands.flatMap fun c => c.gather deep .expression := by
  rw [gather_eq]
  change [] ++ gatherIn deep (.every _ .expression) t.children = _
  rw [gatherIn_every, List.nil_append, operands, parts, List.filter_filter]
  simp only [Bool.and_comm]

theorem gather_list (t : Tree) :
    t.gather deep .list = t.listed.flatMap fun c => c.gather deep .expression := by
  by_cases hkind : t.kind = .expressionList
  · have hsettle : t.settle .list = .list := by simp [settle, hkind]
    rw [gather_eq, hsettle, listed, if_pos hkind]
    change [] ++ gatherIn deep (.every isNamed .expression) t.children = _
    rw [gatherIn_every, List.nil_append, parts]
  · have hsettle : t.settle .list = .expression := by simp [settle, hkind]
    rw [gather_eq, hsettle, listed, if_neg hkind, List.flatMap_singleton, gather_eq deep .expression t]
    rfl

theorem gather_listedIn (t : Tree) (field : Field) :
    ((t.child? field).toList.flatMap fun c => c.gather deep .list) =
      (t.listedIn field).flatMap fun c => c.gather deep .expression := by
  unfold listedIn
  cases t.child? field with
  | none => rfl
  | some c => simp [gather_list]

theorem found_function (deep : Bool) (d : Declarations) (t : Tree) :
    gatherAll deep (Task.takenIn (t.functionTasks d)) =
    (Search.roles [(.body, .statement)]).found deep t.children := by
  simp only [functionTasks, Task.takenIn, Task.taken, List.nil_append, List.append_nil,
    gatherAll_takeAll, found_roles, List.flatMap_singleton]
  rfl

/-- A range clause or a receive. -/
def isReceiver (t : Tree) : Bool := t.kind = .rangeClause || t.kind = .receiveStatement

/-- The right side of a range clause or of a receive is taken before the left side. -/
theorem taken_receiver (h : t.isReceiver = true) : gatherAll deep (Task.takenIn (t.work d)) =
    ((t.child? .right).toList.flatMap fun c => c.gather deep .expression) ++
      if t.hasToken ":=" then []
      else (t.child? .left).toList.flatMap fun c => c.gather deep .list := by
  have hwork : t.work d = Task.takeAll .expression (t.child? .right).toList
      ++ if t.hasToken ":=" then [.declare ((t.namesIn .left).map fun name => (name, none))]
        else Task.takeAll .expression (t.listedIn .left) := by
    rw [isReceiver, Bool.or_eq_true, decide_eq_true_eq, decide_eq_true_eq] at h
    rcases h with hkind | hkind <;> rw [work, hkind]
  rw [hwork, Task.takenIn_append, gatherAll_append, gatherAll_takeAll, gather_listedIn]
  split
  · rfl
  · rw [gatherAll_takeAll]
    rfl

theorem found_receiver (h : t.isReceiver = true) : (t.search .statement).found deep t.children =
    (if t.hasToken ":=" then []
      else (t.child? .left).toList.flatMap fun c => c.gather deep .list) ++
      (t.child? .right).toList.flatMap fun c => c.gather deep .expression := by
  have hsearch : t.search .statement = if t.hasToken ":=" then .roles [(.right, .expression)]
      else .roles [(.left, .list), (.right, .expression)] := by
    rw [isReceiver, Bool.or_eq_true, decide_eq_true_eq, decide_eq_true_eq] at h
    rcases h with hkind | hkind <;> rw [search, hkind]
  rw [hsearch]
  split <;> rw [found_roles] <;> simp

/-- What is taken in the work for a statement is what is visited below it. -/
theorem found_work (hkind : t.kind.isExpression = false) (hreceiver : t.isReceiver = false) :
    gatherAll deep (Task.takenIn (t.work d)) = (t.search .statement).found deep t.children := by
  have hfunction := found_function deep d t
  have hparts : gatherAll deep (Task.takenIn (Task.takeAll .statement t.parts)) =
      (Search.every isNamed .statement).found deep t.children := by
    rw [gatherAll_takeAll, found_every]
    rfl
  have hblock : gatherAll deep (Task.takenIn [.block (Task.takeAll .statement t.parts)]) =
      (Search.every isNamed .statement).found deep t.children := by
    rw [Task.takenIn, Task.taken, Task.takenIn, List.append_nil, hparts]
  have hdefine : ∀ names declared field,
      gatherAll deep (Task.takenIn [.define names declared (t.listedIn field)]) =
        (Search.roles [(field, .list)]).found deep t.children := by
    intro names declared field
    rw [Task.takenIn, Task.taken, Task.takenIn, List.append_nil, gatherAll_map, found_roles,
      List.flatMap_singleton, gather_listedIn]
    rfl
  have hswitch : gatherAll deep (Task.takenIn
      [.block (Task.takeAll .statement (t.child? .initializer).toList
        ++ Task.takeAll .expression (t.child? .value).toList
        ++ .declare ((t.namesIn .alias).map fun name => (name, none))
        :: Task.takeAll .statement
          (t.children.filter fun c => c.kind = .typeCase || c.kind = .defaultCase))]) =
      Search.found deep { Search.roles [(.initializer, .statement), (.value, .expression)] with
        always := fun c => if c.isCase then some .statement else none } t.children := by
    have hcases := found_every deep isCase .statement t.children
    rw [Search.found] at hcases ⊢
    simp only [Search.every, List.flatMap_nil, List.nil_append] at hcases
    simp only [Search.roles, hcases, Task.takenIn, Task.taken, Task.takenIn_append, List.append_nil,
      List.nil_append, gatherAll_append, gatherAll_takeAll, List.map_cons, List.map_nil,
      List.flatMap_cons, List.flatMap_nil]
    rfl
  have hnothing : gatherAll deep (Task.takenIn []) = (Search.roles []).found deep t.children := by
    rw [found_roles]
    rfl
  unfold isReceiver at hreceiver
  unfold work search
  generalize t.kind = kind at hkind hreceiver
  cases kind
  all_goals first
    | exact absurd hkind (by decide)
    | exact absurd hreceiver (by decide)
    | exact hparts
    | exact hnothing
    | exact hblock
    | exact hfunction
    | exact hdefine _ _ _
    | exact hswitch

/-- What is taken in the work for an expression is what is visited below it. -/
theorem found_plan (t : Tree) : gatherAll deep (Task.takenIn (t.plan d).2) =
    (t.search .expression).found deep t.children := by
  have hnothing : gatherAll deep (Task.takenIn []) = (Search.roles []).found deep t.children := by
    rw [found_roles]
    rfl
  have hrest : gatherAll deep (Task.takenIn (Task.takeAll .expression t.operands)) =
      (Search.every (fun c => c.isNamed && !c.kind.isType) .expression).found deep t.children := by
    rw [gatherAll_takeAll, found_every, operands, parts, List.filter_filter]
    simp only [Bool.and_comm]
    rfl
  have hfunction := found_function deep d t
  have htaken : ∀ ts, gatherAll deep (Task.takenIn (Task.takeAll .expression ts)) =
      ts.flatMap fun c => c.gather deep .expression := gatherAll_takeAll deep .expression
  unfold plan search
  generalize t.kind = kind
  cases kind
  case parenthesizedExpression =>
    have hfind : t.children.find? isNamed = t.parts.head? := by rw [parts, List.head?_filter]
    have hfound : (⟨[(isNamed, .expression)], fun _ => none⟩ : Search).found deep t.children =
        t.parts.head?.toList.flatMap fun c => c.gather deep .expression := by
      simp [Search.found, hfind]
    dsimp only
    rw [hfound]
    cases t.parts with
    | nil => rfl
    | cons inner rest => simp [htaken]
  case binaryExpression =>
    dsimp only
    cases hleft : t.child? .left with
    | none => exact hrest
    | some left =>
      cases hright : t.child? .right with
      | none => exact hrest
      | some right => simp [htaken, found_roles, hleft, hright]
  case selectorExpression =>
    dsimp only
    cases hoperand : t.child? .operand with
    | none => exact hrest
    | some operand =>
      cases hmember : t.child? .member with
      | none => exact hrest
      | some member => simp [htaken, found_roles, hoperand]
  case callExpression =>
    dsimp only
    cases hfunction : t.child? .function with
    | none => exact hrest
    | some function =>
      cases harguments : t.child? .arguments with
      | none => simp [htaken, found_roles, hfunction, harguments]
      | some arguments =>
        simp [htaken, found_roles, hfunction, harguments, gather_arguments]
  all_goals first
    | exact hrest
    | exact hnothing
    | exact hfunction

/-! ## The order in which nodes are taken -/

/-- A node as what it is taken for, unless it is a statement that is an expression. -/
def mark (t : Tree) (role : Role) : List (Role × Tree) :=
  if role = .statement && t.kind.isExpression then [] else [(role, t)]

/-- The nodes in the order in which they are taken. Expressions are entered or not. -/
def order (deep : Bool) (d : Declarations) (role : Role) (t : Tree) : List (Role × Tree) :=
  t.mark role ++
    if role = .expression && !deep then []
    else (Task.takenIn (t.tasks d role)).attach.flatMap fun x => x.1.2.order deep d x.1.1
termination_by 2 * sizeOf t + if role = .statement then 1 else 0
decreasing_by
  obtain ⟨⟨role', c⟩, hc⟩ := x
  cases role with
  | expression =>
    have hlt := (near_of_mem_plan hc).sizeOf_lt
    dsimp only
    split <;> omega
  | statement =>
    rcases near_of_mem_work hc with hnear | ⟨rfl, rfl⟩
    · have hlt := hnear.sizeOf_lt
      dsimp only
      split <;> omega
    · simp

theorem order_eq (deep : Bool) (d : Declarations) (role : Role) (t : Tree) :
    t.order deep d role = t.mark role ++
      if role = .expression && !deep then []
      else (Task.takenIn (t.tasks d role)).flatMap fun x => x.2.order deep d x.1 := by
  have hattach : ∀ l : List (Role × Tree), (l.attach.flatMap fun x => x.1.2.order deep d x.1.1) =
      l.flatMap fun x => x.2.order deep d x.1 := by
    intro l
    conv_rhs => rw [← List.attach_map_subtype_val l, List.flatMap_map]
  rw [order, hattach]

/-- A statement that is an expression is visited as such. -/
theorem gather_statement (hkind : t.kind.isExpression = true) :
    t.gather deep .statement = gatherAll deep (Task.takenIn (t.work d)) := by
  have hwork : t.work d = [.take .expression t] := by
    unfold work
    generalize t.kind = kind at hkind
    cases kind
    all_goals first
      | rfl
      | exact absurd hkind (by decide)
  have hsettle : t.settle .statement = t.settle .expression := by simp [settle, hkind]
  rw [hwork, gather_eq, hsettle, ← gather_eq]
  simp [Task.takenIn, Task.taken, gatherAll, Role.slot]

/-- The nodes that are visited from a node on, by the work for it. -/
theorem perm_gather (d : Declarations) (role : Role) (t : Tree) :
    (t.gather deep role.slot).Perm (t.mark role ++
      if role = .expression && !deep then [] else gatherAll deep (Task.takenIn (t.tasks d role))) := by
  cases role with
  | expression =>
    rw [gather_eq]
    change (([(Role.expression, t)] : List _) ++ if decide (Slot.expression = .expression) && !deep then _
      else _).Perm _
    refine List.Perm.append_left _ ?_
    cases deep with
    | false => exact .nil
    | true =>
      change (gatherIn true (t.search .expression) t.children).Perm
        (gatherAll true (Task.takenIn (t.plan d).2))
      rw [found_plan]
      exact perm_gatherIn _ _ _
  | statement =>
    change (t.gather deep .statement).Perm (t.mark .statement ++
      gatherAll deep (Task.takenIn (t.work d)))
    cases hkind : t.kind.isExpression with
    | true =>
      have hmark : t.mark .statement = [] := by simp [mark, hkind]
      rw [hmark, List.nil_append, gather_statement hkind]
    | false =>
      have hmark : t.mark .statement = [(.statement, t)] := by simp [mark, hkind]
      have hsettle : t.settle .statement = .statement := by simp [settle, hkind]
      rw [hmark, gather_eq, hsettle]
      refine List.Perm.append_left _ ((perm_gatherIn deep _ _).trans ?_)
      cases hreceiver : t.isReceiver with
      | false => rw [found_work hkind hreceiver]
      | true =>
        rw [found_receiver hreceiver, taken_receiver hreceiver]
        exact List.perm_append_comm

/-- **The nodes that are taken are the nodes that are visited.** -/
theorem perm_order (deep : Bool) (d : Declarations) :
    ∀ role (t : Tree), (t.order deep d role).Perm (t.gather deep role.slot) := by
  refine does_induction d fun role t ih => ?_
  refine List.Perm.trans ?_ (perm_gather d role t).symm
  rw [order_eq]
  refine List.Perm.append_left _ ?_
  split
  · exact .nil
  · exact List.Perm.flatMap_left _ fun x hx => ih x.1 x.2 hx

end Tree

end LogStyle.Go
