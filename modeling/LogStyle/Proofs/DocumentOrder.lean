import LogStyle.Engine
import LogStyle.Proofs.Arrangement
import LogStyle.Proofs.Sources
import Mathlib.Data.List.Pairwise

/-!
# Calls in document order

The calls of a file are to be listed in document order. The expressions at the top are sorted by where
they begin, but what is inside of an expression is kept in the order in which it was made: in a
function literal the right side of a range clause or of a receive goes before the left side.

* `Tree.swaps`: a range clause or a receive that assigns, with calls on both sides.
* `Tree.Tidy`: none of them is inside of an expression.
* `Tree.sites_order`: where there is none, calls are made in document order.
* `calls_in_order_iff`: **the calls of an arranged file are in document order exactly if it is tidy.**
* `calls_out_of_order`: a file that is not.
-/

namespace LogStyle.Go

open Lower

namespace Tree

/-- The calls on the left side of a range clause or of a receive. -/
def leftSites (t : Tree) : List Tree :=
  sites ((t.child? .left).toList.flatMap fun c => c.gather true .list)

/-- The calls on the right side of a range clause or of a receive. -/
def rightSites (t : Tree) : List Tree :=
  sites ((t.child? .right).toList.flatMap fun c => c.gather true .expression)

/-- A range clause or a receive that assigns, with calls on both sides. -/
def swaps (t : Tree) : Bool :=
  t.isReceiver && !t.hasToken ":=" && !t.leftSites.isEmpty && !t.rightSites.isEmpty

/-- The expressions that the statements of a file are made of. -/
def roots (file : Tree) : List Tree :=
  expressions (file.parts.flatMap fun t => t.gather false .statement)

/-- No range clause and no receive inside of an expression, which only function literals have, assigns
with calls on both sides. -/
def Tidy (file : Tree) : Prop :=
  ∀ root ∈ file.roots, ∀ x ∈ root.gather true .expression, x.1 = .statement → x.2.swaps = false

instance (file : Tree) : Decidable file.Tidy :=
  inferInstanceAs (Decidable (∀ root ∈ file.roots, ∀ x ∈ root.gather true .expression, _ → _ = _))

variable {d : Declarations} {t c u : Tree} {role role' : Role}

/-! ## Calls are made in document order -/

theorem mem_subtrees_of_near (h : t.Near c) (hu : u ∈ c.subtrees) : u ∈ t.subtrees := by
  cases h with
  | child hc _ => exact mem_subtrees_of_children hc hu
  | listed _ hlist hc =>
    refine mem_subtrees_of_children hlist ?_
    unfold listed at hc
    split at hc
    · exact mem_subtrees_of_children (mem_children_of_mem_parts hc) hu
    · rwa [List.mem_singleton.1 hc] at hu
  | argument _ harguments _ hc =>
    exact mem_subtrees_of_children harguments (mem_subtrees_of_children (mem_children_of_mem_parts hc) hu)

theorem mem_subtrees_of_mem_tasks (h : (role', c) ∈ Task.takenIn (t.tasks d role))
    (hu : u ∈ c.subtrees) : u ∈ t.subtrees := by
  cases role with
  | expression => exact mem_subtrees_of_near (near_of_mem_plan h) hu
  | statement =>
    rcases near_of_mem_work h with hnear | ⟨-, rfl⟩
    · exact mem_subtrees_of_near hnear hu
    · exact hu

theorem mem_gather_of_mem_tasks {x : Role × Tree} (h : (role', c) ∈ Task.takenIn (t.tasks d role))
    (hx : x ∈ c.gather true role'.slot) : x ∈ t.gather true role.slot := by
  rw [(perm_gather d role t).mem_iff]
  refine List.mem_append_right _ ?_
  rw [if_neg (by simp)]
  exact List.mem_flatMap.2 ⟨_, h, hx⟩

/-- The calls that are visited from a node on are those that are visited in the work for it, in this
order, unless it swaps its sides. -/
theorem sites_gather (h : t.Arranged) (hswaps : role = .statement → t.swaps = false) :
    sites (t.gather true role.slot) =
      sites (t.mark role) ++ sites (gatherAll true (Task.takenIn (t.tasks d role))) := by
  rw [← sites_append]
  cases role with
  | expression =>
    have hgather : t.gather true .expression =
        [(.expression, t)] ++ (t.search .expression).found true t.children := by
      rw [gather_eq, ← gatherIn_eq_found (inOrder_search h .expression)]
      rfl
    change sites (t.gather true .expression) = _
    rw [hgather, ← found_plan (d := d)]
    rfl
  | statement =>
    change sites (t.gather true .statement) =
      sites (t.mark .statement ++ gatherAll true (Task.takenIn (t.work d)))
    cases hkind : t.kind.isExpression with
    | true =>
      have hmark : t.mark .statement = [] := by simp [mark, hkind]
      rw [hmark, List.nil_append, gather_statement hkind]
    | false =>
      have hmark : t.mark .statement = [(.statement, t)] := by simp [mark, hkind]
      have hsettle : t.settle .statement = .statement := by simp [settle, hkind]
      have hgather : t.gather true .statement =
          [(.statement, t)] ++ (t.search .statement).found true t.children := by
        rw [gather_eq, hsettle, ← gatherIn_eq_found (inOrder_search h .statement)]
        rfl
      rw [hgather, hmark, sites_append, sites_append]
      refine congrArg _ ?_
      cases hreceiver : t.isReceiver with
      | false => rw [found_work hkind hreceiver]
      | true =>
        -- one of the sides has no calls
        rw [found_receiver hreceiver, taken_receiver hreceiver, sites_append, sites_append]
        cases hdeclares : t.hasToken ":=" with
        | true => simp [sites]
        | false =>
          have hsides : t.leftSites = [] ∨ t.rightSites = [] := by
            have hswaps := hswaps rfl
            simp only [swaps, hreceiver, hdeclares, Bool.not_false, Bool.true_and, Bool.and_eq_false_iff,
              Bool.not_eq_false', List.isEmpty_iff] at hswaps
            exact hswaps
          change t.leftSites ++ t.rightSites = t.rightSites ++ t.leftSites
          rcases hsides with hside | hside <;> simp [hside]

/-- **Calls are made in document order**, where no sides are swapped. -/
theorem sites_order (d : Declarations) : ∀ role (t : Tree), (∀ u ∈ t.subtrees, u.Arranged) →
    (∀ x ∈ t.gather true role.slot, x.1 = .statement → x.2.swaps = false) →
      sites (t.order true d role) = sites (t.gather true role.slot) := by
  refine does_induction d fun role t ih h hswaps => ?_
  have hself : role = .statement → t.swaps = false := by
    rintro rfl
    cases hkind : t.kind.isExpression with
    | true =>
      have hreceiver : t.isReceiver = false := by
        unfold isReceiver
        generalize t.kind = kind at hkind
        cases kind
        all_goals first
          | rfl
          | cases hkind
      simp [swaps, hreceiver]
    | false =>
      refine hswaps (.statement, t) ?_ rfl
      have hsettle : t.settle .statement = .statement := by simp [settle, hkind]
      change _ ∈ t.gather true .statement
      rw [gather_eq, hsettle]
      exact List.mem_cons_self
  rw [sites_gather (d := d) (h t (mem_subtrees_self t)) hself, order_eq, sites_append]
  refine congrArg _ ?_
  rw [if_neg (by simp), gatherAll, sites_flatMap, sites_flatMap]
  refine List.flatMap_congr fun x hx => ih x.1 x.2 hx ?_ ?_
  · exact fun u hu => h u (mem_subtrees_of_mem_tasks hx hu)
  · exact fun y hy => hswaps y (mem_gather_of_mem_tasks hx hy)

/-! ## The expressions of a file -/

/-- An expression has the place and the calls of a node. -/
def Outlines (d : Declarations) (e : Expr) (c : Tree) : Prop :=
  e.span = c.span ∧ e.calls.map Expr.span = (sites (c.order true d .expression)).map span

theorem piecewise_outlines (d : Declarations) : Piecewise (List.Forall₂ (Outlines d)) where
  nil := .nil
  append h h' := List.rel_append h h'

/-- What a node leaves behind are the expressions that it is made of. -/
theorem outlines_does (d : Declarations) : ∀ role (t : Tree) (s : State),
    List.Forall₂ (Outlines d) ((t.does d role).run s).1 (expressions (t.order false d role)) := by
  refine does_induction d fun role t ih s => ?_
  cases role with
  | expression =>
    have horder : t.order false d .expression = [(.expression, t)] := by
      rw [order_eq]
      simp [mark]
    have hcalls := callSpans_does d .expression t s
    rw [horder]
    refine .cons ⟨(reads_meaning d t s).1, ?_⟩ .nil
    rw [← hcalls, callSpans]
    change _ = (Expr.callsOfAll [((t.meaning d).lower.run s).1]).map _
    rw [Expr.callsOfAll_cons, Expr.callsOfAll_nil, List.append_nil]
    rfl
  | statement =>
    have hmark : expressions (t.mark .statement) = [] := by
      unfold mark
      split <;> simp [expressions]
    rw [order_eq, expressions_append, hmark, List.nil_append, if_neg (by simp), expressions_flatMap,
      does, visit_eq]
    exact Task.piecewise_runAll (fun x => expressions (x.2.order false d x.1)) (piecewise_outlines d)
      (t.work d) (fun x hx => ih x.1 x.2 hx) s

/-- The expressions of a file have the calls of its roots, which are gone through by where they
begin. -/
theorem exists_sorted (file : Tree) : ∃ rs : List Tree, rs.Perm file.roots ∧
    (rs.Pairwise fun a b => a.span.start.offset ≤ b.span.start.offset) ∧
    (Expr.callsOfAll (lowerFile file).1).map Expr.span =
      rs.flatMap fun c => (sites (c.order true file.declarations .expression)).map span := by
  have hvisited : List.Forall₂ (Outlines file.declarations) file.visited.1
      (file.ordered.flatMap fun t => expressions (t.order false file.declarations .statement)) := by
    rw [visited_eq]
    exact Task.piecewise_takeAll (fun x => expressions (x.2.order false file.declarations x.1))
      (piecewise_outlines _) (fun t _ => outlines_does file.declarations .statement t) {}
  have hroots : (file.ordered.flatMap fun t =>
      expressions (t.order false file.declarations .statement)).Perm file.roots := by
    rw [roots, expressions_flatMap]
    refine (perm_ordered file).flatMap fun t _ => ?_
    exact ((perm_order false file.declarations .statement t).filter _).map _
  let begins := fun a b : Expr => decide (a.span.start.offset ≤ b.span.start.offset)
  have hsorted : (file.visited.1.mergeSort begins).Pairwise fun a b =>
      a.span.start.offset ≤ b.span.start.offset := by
    refine (List.pairwise_mergeSort (fun a b c hab hbc => ?_) (fun a b => ?_) _).imp of_decide_eq_true
    · exact decide_eq_true (Nat.le_trans (of_decide_eq_true hab) (of_decide_eq_true hbc))
    · simp only [Bool.or_eq_true, decide_eq_true_eq]
      exact Nat.le_total _ _
  obtain ⟨rs, hrs, hperm⟩ :=
    List.perm_comp_forall₂ (List.mergeSort_perm file.visited.1 begins) hvisited
  have hspans : (file.visited.1.mergeSort begins).map Expr.span = rs.map span := by
    rw [← List.forall₂_eq_eq_eq, List.forall₂_map_left_iff, List.forall₂_map_right_iff]
    exact hrs.imp fun _ _ h => h.1
  have hcalls : (file.visited.1.mergeSort begins).map (fun e => e.calls.map Expr.span) =
      rs.map fun c => (sites (c.order true file.declarations .expression)).map span := by
    rw [← List.forall₂_eq_eq_eq, List.forall₂_map_left_iff, List.forall₂_map_right_iff]
    exact hrs.imp fun _ _ h => h.2
  refine ⟨rs, hperm.trans hroots, ?_, ?_⟩
  · have hpairwise : (rs.map span).Pairwise fun a b => a.start.offset ≤ b.start.offset := by
      rw [← hspans, List.pairwise_map]
      exact hsorted
    rwa [List.pairwise_map] at hpairwise
  · rw [List.flatMap_def, ← hcalls, ← List.flatMap_def, lowerFile_eq, callsOfAll_eq_flatMap,
      List.map_flatMap]

/-! ## Order and disorder -/

section

variable {file : Tree} (h : ∀ u ∈ file.subtrees, u.Arranged)
include h

theorem mem_subtrees_of_mem_roots {root : Tree} (hroot : root ∈ file.roots) : root ∈ file.subtrees := by
  obtain ⟨t, ht, hgather⟩ := List.mem_flatMap.1 (mem_expressions.1 hroot)
  have harranged : ∀ u ∈ t.subtrees, u.Arranged := fun u hu =>
    h u (mem_subtrees_of_children (mem_children_of_mem_parts ht) hu)
  exact mem_subtrees_of_children (mem_children_of_mem_parts ht)
    ((sublist_gather false _ t fun u hu => (harranged u hu).regular).subset (List.mem_map_of_mem hgather))

theorem arranged_root {root : Tree} (hroot : root ∈ file.roots) : ∀ u ∈ root.subtrees, u.Arranged :=
  fun u hu => h u (mem_subtrees_trans file (mem_subtrees_of_mem_roots h hroot) hu)

/-- The roots of a file lie one after the other. -/
theorem before_fileRoots :
    file.roots.Pairwise fun a b => a.span.stop.offset ≤ b.span.start.offset := by
  have hfile := h file (mem_subtrees_self file)
  rw [roots, parts, ← gatherIn_every]
  refine before_rootsIn _ file.children (fun c _ => slots_every _ _ c) hfile.before fun u hu => h u ?_
  obtain ⟨field, kind, span, text, children⟩ := file
  rw [subtrees]
  exact List.mem_cons_of_mem _ hu

end

/-- The calls of an arranged node are inside of it, in document order, and cover some text. -/
theorem leads_sites (h : ∀ u ∈ t.subtrees, u.Arranged) (slot : Slot) :
    (∀ c ∈ sites (t.gather true slot), c.span.Inside t.span ∧
      c.span.start.offset < c.span.stop.offset) ∧
    (sites (t.gather true slot)).Pairwise fun a b => a.span.Leads b.span := by
  have hsublist := sublist_gather true slot t fun u hu => (h u hu).regular
  have hsites : (sites (t.gather true slot)).Sublist t.subtrees :=
    (List.filter_sublist.map _).trans hsublist
  have hinside := inside_subtrees t fun u hu => (h u hu).inside
  refine ⟨fun c hc => ⟨hinside c (hsites.subset hc), ?_⟩,
    (leads_subtrees t h).sublist hsites⟩
  obtain ⟨x, hx, rfl⟩ := List.mem_map.1 hc
  have hsite := (List.mem_filter.1 hx).2
  rw [isSite, Bool.and_eq_true] at hsite
  exact (h _ (hsites.subset hc)).covers hsite.2

/-- **The calls of a tidy file are in document order.** -/
theorem leads_calls {file : Tree} (h : ∀ u ∈ file.subtrees, u.Arranged) (htidy : file.Tidy) :
    ((Expr.callsOfAll (lowerFile file).1).map Expr.span).Pairwise Span.Leads := by
  obtain ⟨rs, hperm, hsorted, hcalls⟩ := exists_sorted file
  have hroots : ∀ r ∈ rs, r ∈ file.roots := fun r hr => hperm.mem_iff.1 hr
  have hsites : ∀ r ∈ rs, sites (r.order true file.declarations .expression) =
      sites (r.gather true .expression) := by
    intro r hr
    exact sites_order file.declarations .expression r (arranged_root h (hroots r hr))
      (htidy r (hroots r hr))
  have happart : rs.Pairwise fun a b => a.span.Apart b.span :=
    (hperm.symm.pairwise_iff fun {a b} hab => hab.symm).1 ((before_fileRoots h).imp .inl)
  rw [hcalls, List.pairwise_flatMap]
  refine ⟨fun r hr => ?_, ?_⟩
  · rw [hsites r hr, List.pairwise_map]
    exact (leads_sites (arranged_root h (hroots r hr)) .expression).2
  · refine (hsorted.and happart).imp_of_mem fun {a b} ha hb hab => ?_
    intro x hx y hy
    rw [hsites a ha] at hx
    rw [hsites b hb] at hy
    obtain ⟨c, hc, rfl⟩ := List.mem_map.1 hx
    obtain ⟨c', hc', rfl⟩ := List.mem_map.1 hy
    obtain ⟨⟨-, hstop⟩, hcovers⟩ := (leads_sites (arranged_root h (hroots a ha)) .expression).1 c hc
    obtain ⟨⟨hstart', hstop'⟩, hcovers'⟩ :=
      (leads_sites (arranged_root h (hroots b hb)) .expression).1 c' hc'
    obtain ⟨hbegins, happart⟩ := hab
    -- a root that begins later and ends before the other one has no room for calls
    have hbefore : c.span.stop.offset ≤ c'.span.start.offset := by
      rcases happart with happart | happart <;> omega
    exact ⟨by omega, .inr hbefore⟩

/-- The calls of a node that is taken are made one after the other. -/
theorem sublist_order (d : Declarations) : ∀ role (t : Tree) (x : Role × Tree),
    x ∈ t.order true d role → (x.2.order true d x.1).Sublist (t.order true d role) := by
  refine does_induction d fun role t ih x hx => ?_
  rw [order_eq, if_neg (by simp)] at hx
  rcases List.mem_append.1 hx with hx | hx
  · have hself : x = (role, t) := by
      unfold mark at hx
      split at hx
      · cases hx
      · exact List.mem_singleton.1 hx
    rw [hself]
  · obtain ⟨y, hy, hx⟩ := List.mem_flatMap.1 hx
    refine (ih y.1 y.2 hy x hx).trans ?_
    rw [order_eq true d role t, if_neg (by simp)]
    refine List.Sublist.trans ?_ (List.sublist_append_right _ _)
    exact List.sublist_flatten_of_mem (List.mem_map_of_mem hy)

/-- The left side of an assignment comes before the right side. -/
theorem Arranged.left_before_right (h : t.Arranged) {left right : Tree}
    (hleft : t.child? .left = some left) (hright : t.child? .right = some right) :
    left.span.stop.offset ≤ right.span.start.offset := by
  have hfield := field_of_child? hleft
  have hfield' := field_of_child? hright
  have hne : left ≠ right := by
    rintro rfl
    rw [hfield] at hfield'
    cases hfield'
  -- they stand one after the other, and the grammar says which comes first
  let before := fun a b : Tree => a.span.stop.offset ≤ b.span.start.offset ∧
    ∀ i ∈ a.rank, ∀ j ∈ b.rank, i ≤ j
  have hsymm : Std.Symm fun a b => before a b ∨ before b a := ⟨fun _ _ => Or.symm⟩
  have hsides : t.children.Pairwise fun a b => before a b ∨ before b a :=
    (h.before.and h.ranked).imp .inl
  rcases hsides.forall (mem_children_of_child? hleft) (mem_children_of_child? hright) hne with
    hside | hside
  · exact hside.1
  · have hle := hside.2 1 (by simp [rank, hfield']) 0 (by simp [rank, hfield])
    omega

/-- What is taken for a range clause or a receive that assigns. -/
theorem takenIn_receiver (hreceiver : t.isReceiver = true) (hassigns : t.hasToken ":=" = false) :
    Task.takenIn (t.work d) = ((t.child? .right).toList.map fun c => (.expression, c)) ++
      (t.listedIn .left).map fun c => (.expression, c) := by
  have hwork : t.work d = Task.takeAll .expression (t.child? .right).toList
      ++ Task.takeAll .expression (t.listedIn .left) := by
    rw [isReceiver, Bool.or_eq_true, decide_eq_true_eq, decide_eq_true_eq] at hreceiver
    rcases hreceiver with hkind | hkind <;> simp [work, hkind, hassigns]
  rw [hwork, Task.takenIn_append, Task.takenIn_takeAll, Task.takenIn_takeAll]

/-- Sides that are swapped have a call of the right side before one of the left side. -/
theorem swapped_sites (h : ∀ u ∈ t.subtrees, u.Arranged) (hswaps : t.swaps = true) (d : Declarations) :
    ∃ a b : Tree, a.span.start.offset < b.span.start.offset ∧
      [b, a].Sublist (sites (t.order true d .statement)) := by
  simp only [swaps, Bool.and_eq_true, Bool.not_eq_true', List.isEmpty_eq_false_iff_exists_mem] at hswaps
  obtain ⟨⟨⟨hreceiver, hassigns⟩, a, ha⟩, b, hb⟩ := hswaps
  have hsites : ∀ c : Tree, (sites (c.order true d .expression)).Perm (sites (c.gather true .expression)) :=
    fun c => perm_sites (perm_order true d .expression c)
  -- the calls come from the two sides
  rw [rightSites, sites_flatMap] at hb
  obtain ⟨right, hright, hb⟩ := List.mem_flatMap.1 hb
  rw [Option.mem_toList] at hright
  have hlisted := ha
  rw [leftSites, gather_listedIn, sites_flatMap] at hlisted
  obtain ⟨c, hc, hlisted⟩ := List.mem_flatMap.1 hlisted
  rw [leftSites, sites_flatMap] at ha
  obtain ⟨left, hleft, ha⟩ := List.mem_flatMap.1 ha
  rw [Option.mem_toList] at hleft
  have hbelow : ∀ {c : Tree}, c ∈ t.children → ∀ u ∈ c.subtrees, u.Arranged :=
    fun hc u hu => h u (mem_subtrees_of_children hc hu)
  obtain ⟨⟨-, hstop⟩, hcovers⟩ := (leads_sites (hbelow (mem_children_of_child? hleft)) .list).1 a ha
  obtain ⟨⟨hstart, -⟩, -⟩ := (leads_sites (hbelow (mem_children_of_child? hright)) .expression).1 b hb
  have hsides := (h t (mem_subtrees_self t)).left_before_right hleft hright
  refine ⟨a, b, by omega, ?_⟩
  -- the right side is taken first
  rw [order_eq, if_neg (by simp), sites_append, sites_flatMap]
  refine List.Sublist.trans ?_ (List.sublist_append_right _ _)
  change [b, a].Sublist ((Task.takenIn (t.work d)).flatMap _)
  rw [takenIn_receiver hreceiver hassigns, List.flatMap_append, List.flatMap_map, List.flatMap_map]
  change ([b] ++ [a]).Sublist _
  refine List.Sublist.append ?_ ?_
  · refine List.singleton_sublist.2 (List.mem_flatMap.2 ⟨right, Option.mem_toList.2 hright, ?_⟩)
    exact (hsites right).mem_iff.2 hb
  · refine List.singleton_sublist.2 (List.mem_flatMap.2 ⟨c, hc, ?_⟩)
    exact (hsites c).mem_iff.2 hlisted

/-- **A file whose calls are in document order is tidy.** -/
theorem tidy_of_sorted {file : Tree} (h : ∀ u ∈ file.subtrees, u.Arranged)
    (hsorted : ((Expr.callsOfAll (lowerFile file).1).map Expr.span).Pairwise
      fun a b => a.start.offset ≤ b.start.offset) : file.Tidy := by
  intro root hroot x hx hstatement
  cases hswaps : x.2.swaps with
  | false => rfl
  | true =>
    exfalso
    obtain ⟨role, r⟩ := x
    obtain rfl : role = .statement := hstatement
    have hr : r ∈ root.subtrees := (sublist_gather true .expression root
      fun u hu => (arranged_root h hroot u hu).regular).subset (List.mem_map_of_mem hx)
    have harranged : ∀ u ∈ r.subtrees, u.Arranged :=
      fun u hu => arranged_root h hroot u (mem_subtrees_trans root hr hu)
    obtain ⟨a, b, hlt, hsublist⟩ := swapped_sites harranged hswaps file.declarations
    -- the two calls are still in that order among the calls of the file
    have horder : (r.order true file.declarations .statement).Sublist
        (root.order true file.declarations .expression) :=
      sublist_order file.declarations .expression root (.statement, r)
        ((perm_order true file.declarations .expression root).mem_iff.2 hx)
    obtain ⟨rs, hperm, -, hcalls⟩ := exists_sorted file
    have hroot' : ([b, a].map span).Sublist ((Expr.callsOfAll (lowerFile file).1).map Expr.span) := by
      rw [hcalls]
      refine (((hsublist.trans ((horder.filter _).map _)).map span)).trans ?_
      exact List.sublist_flatten_of_mem (List.mem_map_of_mem (hperm.mem_iff.2 hroot))
    have hle := hsorted.sublist hroot'
    simp only [List.map_cons, List.map_nil, List.pairwise_cons, List.mem_singleton, forall_eq] at hle
    exact absurd hle.1 (by omega)

end Tree

/-! ## Calls and violations in order -/

section

variable {ρ : Type} [MessageRule ρ]

/-- The call of each violation. -/
def origins (engine : Engine ρ) (path : String) (types : Resolver) (calls : List Expr) : List Expr :=
  calls.flatMap fun call => (engine.checkCall path types call).map fun _ => call

theorem forall₂_origins (engine : Engine ρ) (path : String) (types : Resolver) (calls : List Expr) :
    List.Forall₂ (fun v call => call ∈ calls ∧ v ∈ engine.checkCall path types call)
      (calls.flatMap (engine.checkCall path types)) (origins engine path types calls) := by
  induction calls with
  | nil => exact .nil
  | cons call calls ih =>
    rw [origins, List.flatMap_cons, List.flatMap_cons]
    refine List.rel_append ?_ (ih.imp fun v c h => ⟨List.mem_cons_of_mem _ h.1, h.2⟩)
    rw [List.forall₂_map_right_iff, List.forall₂_same]
    exact fun v hv => ⟨List.mem_cons_self, hv⟩

theorem pairwise_origins {engine : Engine ρ} {path : String} {types : Resolver} {calls : List Expr}
    (h : calls.Pairwise fun a b => a.span.start.offset ≤ b.span.start.offset) :
    (origins engine path types calls).Pairwise fun a b =>
      a.span.start.offset ≤ b.span.start.offset := by
  rw [origins, List.pairwise_flatMap]
  refine ⟨fun call _ => ?_, h.imp fun {a b} hab x hx y hy => ?_⟩
  · rw [List.pairwise_map]
    exact List.pairwise_of_forall fun _ _ => Nat.le_refl _
  · obtain ⟨-, -, rfl⟩ := List.mem_map.1 hx
    obtain ⟨-, -, rfl⟩ := List.mem_map.1 hy
    exact hab

end

variable {file : Tree}

/-- **The calls of an arranged file are in document order exactly if it is tidy.** Then a call goes
before those inside of it, and violations are in the order of their calls. -/
theorem calls_in_order_iff (h : ∀ u ∈ file.subtrees, u.Arranged) (path : String) :
    ((SourceUnit.calls ⟨path, (lowerFile file).1⟩).Pairwise
        (fun a b => a.span.start.offset ≤ b.span.start.offset) ↔ file.Tidy) ∧
    (file.Tidy → (SourceUnit.calls ⟨path, (lowerFile file).1⟩).Pairwise
        (fun a b => a.span.Leads b.span) ∧
      ∀ {ρ : Type} [MessageRule ρ] (engine : Engine ρ), ∃ calls : List Expr,
        List.Forall₂ (fun v call => call ∈ SourceUnit.calls ⟨path, (lowerFile file).1⟩ ∧
            v ∈ engine.checkCall path (lowerFile file).2.resolver call)
          (engine.check ⟨path, (lowerFile file).1⟩ (lowerFile file).2.resolver) calls ∧
        calls.Pairwise fun a b => a.span.start.offset ≤ b.span.start.offset) := by
  have hleads : file.Tidy → (Expr.callsOfAll (lowerFile file).1).Pairwise
      fun a b => a.span.Leads b.span := by
    intro htidy
    have hspans := Tree.leads_calls h htidy
    rwa [List.pairwise_map] at hspans
  have hsorted : file.Tidy → (Expr.callsOfAll (lowerFile file).1).Pairwise
      fun a b => a.span.start.offset ≤ b.span.start.offset :=
    fun htidy => (hleads htidy).imp fun hab => hab.1
  refine ⟨⟨fun hcalls => Tree.tidy_of_sorted h ?_, hsorted⟩, fun htidy =>
    ⟨hleads htidy, fun {_} _ engine => ?_⟩⟩
  · rw [List.pairwise_map]
    exact hcalls
  · exact ⟨_, forall₂_origins engine path (lowerFile file).2.resolver _,
      pairwise_origins (hsorted htidy)⟩

/-- A range clause with calls on both sides. -/
def rangeClause : String :=
  "package p\nimport \"log/slog\"\nvar a []int\nfunc f() \x7b\n" ++
    "\tfor a[g(\"l\")] = range slog.Info(\"R\", func() \x7b h() \x7d) \x7b\n\t\x7d\n\x7d\n"

/-- Outside of function literals the sides of a range clause are sorted. -/
theorem calls_in_order_range : ∃ file : Tree, Tree.ofSource? rangeClause = some file ∧
    (∀ u ∈ file.subtrees, u.Arranged) ∧ file.Tidy ∧
    file.callSites.length = 3 ∧
    (SourceUnit.calls ⟨"p.go", (lowerFile file).1⟩).Pairwise
      (fun a b => a.span.start.offset ≤ b.span.start.offset) := by
  have hfile : ∃ file ∈ Tree.ofSource? rangeClause,
      (∀ u ∈ file.subtrees, u.Arranged) ∧ file.Tidy ∧ file.callSites.length = 3 := by
    rw [Tree.ofSource?_eq]
    decide +kernel
  obtain ⟨file, hfile, harranged, htidy, hlength⟩ := hfile
  exact ⟨file, hfile, harranged, htidy, hlength, (calls_in_order_iff harranged "p.go").1.2 htidy⟩

/-- A range clause with calls on both sides, in a function literal. -/
def rangeInLiteral : String :=
  "package main\n\nimport \"log/slog\"\n\nvar a []int\n\nfunc main() \x7b\n" ++
    "\trun(func() \x7b\n" ++
    "\t\tfor a[slog.Info(\"Left\")] = range slog.Info(\"Right\") \x7b\n\t\t\x7d\n" ++
    "\t\x7d)\n\x7d\n"

/-- In a function literal the call on the right of a range clause is listed, and reported, before the
one on the left. -/
theorem calls_out_of_order : ∃ file : Tree, Tree.ofSource? rangeInLiteral = some file ∧
    (∀ u ∈ file.subtrees, u.Arranged) ∧
    (SourceUnit.calls ⟨"main.go", (lowerFile file).1⟩).map (·.span.start.offset) = [61, 109, 82] ∧
    (Engine.check ⟨[⟨Rule.lowercaseStart, .warning⟩]⟩ ⟨"main.go", (lowerFile file).1⟩
      (lowerFile file).2.resolver).map (·.location.offset) = [119, 92] := by
  have hfile : ∃ file ∈ Tree.ofSource? rangeInLiteral,
      (∀ u ∈ file.subtrees, u.Arranged) ∧
      (SourceUnit.calls ⟨"main.go", (lowerFile file).1⟩).map (·.span.start.offset) = [61, 109, 82] ∧
      (Engine.check ⟨[⟨Rule.lowercaseStart, .warning⟩]⟩ ⟨"main.go", (lowerFile file).1⟩
        (lowerFile file).2.resolver).map (·.location.offset) = [119, 92] := by
    rw [Tree.ofSource?_eq]
    decide +kernel
  exact hfile

end LogStyle.Go
