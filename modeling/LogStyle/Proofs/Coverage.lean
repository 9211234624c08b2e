import LogStyle.Proofs.Sources
import LogStyle.Proofs.Visits

/-!
# No call is lost

Every call in a place where calls are looked for is a call of the file, and it is one only once.

* `Tree.callSites`: the calls that are visited in a file.
* `Tree.callSpans_does`: calls are made in the order in which nodes are taken.
* `Tree.sublist_gather`: no node is visited twice, unless the case of a type switch has a role as well.
* `calls_perm_callSites`: **the calls of a file are those that are visited in it.**
-/

namespace LogStyle.Go

open Lower

/-- Whether a node that is visited is a call. -/
def isSite (visit : Role × Tree) : Bool := visit.1 = .expression && visit.2.isApplied

/-- The calls among nodes that are visited. -/
def sites (visits : List (Role × Tree)) : List Tree := (visits.filter isSite).map (·.2)

/-- The calls that are visited in a file. -/
def Tree.callSites (file : Tree) : List Tree :=
  sites (file.parts.flatMap fun t => t.gather true .statement)

/-! ## Calls are made in this order -/

theorem sites_append (xs ys : List (Role × Tree)) : sites (xs ++ ys) = sites xs ++ sites ys := by
  simp [sites]

theorem sites_flatMap {α : Type} (l : List α) (f : α → List (Role × Tree)) :
    sites (l.flatMap f) = l.flatMap fun x => sites (f x) := by
  rw [sites, List.filter_flatMap, List.map_flatMap]
  rfl

theorem perm_sites {xs ys : List (Role × Tree)} (h : xs.Perm ys) : (sites xs).Perm (sites ys) :=
  (h.filter _).map _

/-- What can be said of expressions piece by piece. -/
structure Piecewise {α : Type} (R : List Expr → List α → Prop) : Prop where
  nil : R [] []
  append : ∀ {es fs : List Expr} {xs ys : List α}, R es xs → R fs ys → R (es ++ fs) (xs ++ ys)

namespace Task

variable {α : Type} {R : List Expr → List α → Prop} {d : Declarations} (said : Role × Tree → List α)

theorem piecewise_takeAll (hR : Piecewise R) {role : Role} {ts : List Tree}
    (h : ∀ c ∈ ts, ∀ s, R ((c.does d role).run s).1 (said (role, c))) (s : State) :
    R ((runAll d (takeAll role ts)).run s).1 (ts.flatMap fun c => said (role, c)) := by
  induction ts generalizing s with
  | nil => exact hR.nil
  | cons c ts ih =>
    rw [takeAll, List.map_cons, runAll, ← takeAll, run]
    exact hR.append (h c List.mem_cons_self s) (ih (fun c hc => h c (List.mem_cons_of_mem _ hc)) _)

mutual

/-- What can be said of a piece of work is what can be said of the nodes that are taken in it. -/
theorem piecewise_run (hR : Piecewise R) : ∀ task : Task,
    (∀ x ∈ task.taken, ∀ s, R ((x.2.does d x.1).run s).1 (said x)) →
      ∀ s, R ((task.run d).run s).1 (task.taken.flatMap said)
  | take role t, h, s => by
    rw [run, taken, List.flatMap_singleton]
    exact h (role, t) (by simp [taken]) s
  | declare bindings, _, s => by
    rw [run, taken]
    exact hR.nil
  | define names declared values, h, s => by
    obtain ⟨g, hg⟩ := run_define (d := d) names declared values
    have hvalues : ∀ c ∈ values, ∀ s, R ((c.does d .expression).run s).1 (said (.expression, c)) := by
      intro c hc
      refine h (.expression, c) ?_
      rw [taken]
      exact List.mem_map_of_mem hc
    rw [taken, List.flatMap_map, hg]
    exact piecewise_takeAll said hR hvalues s
  | block tasks, h, s => by
    rw [taken]
    exact piecewise_runAll hR tasks (fun x hx => h x (by rwa [taken])) { s with scopes := s.scopes.push }

theorem piecewise_runAll (hR : Piecewise R) : ∀ tasks : List Task,
    (∀ x ∈ takenIn tasks, ∀ s, R ((x.2.does d x.1).run s).1 (said x)) →
      ∀ s, R ((runAll d tasks).run s).1 ((takenIn tasks).flatMap said)
  | [], _, s => hR.nil
  | task :: rest, h, s => by
    rw [runAll, takenIn, List.flatMap_append]
    have htask := piecewise_run hR task (fun x hx => h x (by simp [takenIn, hx])) s
    have hrest := piecewise_runAll hR rest (fun x hx => h x (by simp [takenIn, hx]))
      ((task.run d).run s).2
    exact hR.append htask hrest

end

end Task

/-- The places of the calls that some work makes. -/
def Lower.callSpans (x : Lower (List Expr)) (s : State) : List Span :=
  (Expr.callsOfAll (x.run s).1).map Expr.span

theorem piecewise_callSpans :
    Piecewise fun es spans => (Expr.callsOfAll es).map Expr.span = spans where
  nil := rfl
  append h h' := by rw [Expr.callsOfAll_append, List.map_append, h, h']

namespace Tree

variable {deep : Bool} {d : Declarations} {t c : Tree} {slot : Slot} {role : Role}

/-- Nothing is done for literals and names. -/
theorem plan_leaf (h : (t.plan d).1 = .literal ∨ (t.plan d).1 = .name) : (t.plan d).2 = [] := by
  revert h
  unfold plan
  dsimp only
  split
  all_goals first
    | exact fun _ => rfl
    | (split <;> rintro (h | h) <;> cases h)
    | (rintro (h | h) <;> cases h)

theorem plan_isApplied (h : t.isApplied = true) : (t.plan d).1 = .call := by
  rw [isApplied, Bool.and_eq_true, decide_eq_true_eq] at h
  obtain ⟨function, hfunction⟩ := Option.isSome_iff_exists.1 h.2
  rw [plan, h.1]
  simp only [hfunction]

/-- A node that is no call has the calls of what is below it. -/
theorem calls_made_of_ne {id fieldId : NodeId} {form : Form} {es : List Expr} (hcall : form ≠ .call)
    (hleaf : form = .literal ∨ form = .name → es = []) :
    (t.made id fieldId form es).calls = Expr.callsOfAll es := by
  have hother : (Expr.other id t.span t.kind.name es).calls = Expr.callsOfAll es := Expr.calls_other
  cases form with
  | literal => simp [hleaf (.inl rfl), made]
  | name => simp [hleaf (.inr rfl), made]
  | paren => match es with
    | [inner] => simp [made]
    | [] | _ :: _ :: _ => exact hother
  | binary => match es with
    | [left, right] => simp [made]
    | [] | [_] | _ :: _ :: _ :: _ => exact hother
  | select => match es with
    | [operand] => simp [made]
    | [] | _ :: _ :: _ => exact hother
  | call => exact absurd rfl hcall
  | typed | unary | other => exact hother

/-- The calls of an expression: itself, if it is one, and those below it. -/
theorem callSpans_expression (d : Declarations) (t : Tree) (s : State) :
    callSpans (t.does d .expression) s =
      (sites (t.mark .expression)).map span ++ callSpans (Task.runAll d (t.plan d).2) s.bump := by
  have hmark : sites (t.mark .expression) = if t.isApplied then [t] else [] := by
    cases happlied : t.isApplied <;> simp [mark, sites, isSite, happlied]
  have hrun : callSpans (t.does d .expression) s = (Expr.calls (t.made s.next (t.prepared d s).2.next
      (t.plan d).1 (t.prepared d s).1)).map Expr.span := by
    rw [← run_finish (d := d), ← run_lower, callSpans]
    change (Expr.callsOfAll [((t.meaning d).lower.run s).1]).map _ = _
    rw [Expr.callsOfAll_cons, Expr.callsOfAll_nil, List.append_nil]
  rw [hrun, hmark]
  cases happlied : t.isApplied with
  | true =>
    have hform := plan_isApplied (d := d) happlied
    obtain ⟨-, -, function, htasks⟩ := of_plan_call hform
    obtain ⟨callee, args, hes⟩ : ∃ callee args, (t.prepared d s).1 = callee :: args := by
      rw [prepared, htasks, Task.takeAll, List.map_cons, Task.runAll]
      exact ⟨_, _, rfl⟩
    have hbelow : callSpans (Task.runAll d (t.plan d).2) s.bump =
        (Expr.callsOfAll (callee :: args)).map Expr.span := by
      rw [← hes]
      rfl
    rw [hbelow, hform, hes, made, Expr.calls_call, Expr.callsOfAll_cons]
    rfl
  | false =>
    have hcall : (t.plan d).1 ≠ .call := by
      intro hform
      rw [(of_plan_call hform).2.1] at happlied
      cases happlied
    have hleaf : (t.plan d).1 = .literal ∨ (t.plan d).1 = .name → (t.prepared d s).1 = [] := by
      intro hform
      rw [prepared, plan_leaf hform]
      rfl
    rw [calls_made_of_ne hcall hleaf]
    rfl

/-- **Calls are made in the order in which nodes are taken.** -/
theorem callSpans_does (d : Declarations) : ∀ role (t : Tree) (s : State),
    callSpans (t.does d role) s = (sites (t.order true d role)).map span := by
  refine does_induction d fun role t ih => ?_
  have htasks := Task.piecewise_runAll (fun x => (sites (x.2.order true d x.1)).map span)
    piecewise_callSpans (t.tasks d role) fun x hx => ih x.1 x.2 hx
  intro s
  have horder : (sites (t.order true d role)).map span = (sites (t.mark role)).map span ++
      (Task.takenIn (t.tasks d role)).flatMap fun x => (sites (x.2.order true d x.1)).map span := by
    rw [order_eq, sites_append, List.map_append]
    simp only [Bool.not_true, Bool.and_false, Bool.false_eq_true, if_false, sites_flatMap,
      List.map_flatMap]
  rw [horder]
  cases role with
  | statement =>
    have hmark : sites (t.mark .statement) = [] := by
      unfold mark
      split <;> simp [sites, isSite]
    rw [hmark, List.map_nil, List.nil_append, does, visit_eq]
    exact htasks s
  | expression =>
    rw [callSpans_expression]
    exact congrArg _ (htasks s.bump)

/-- The calls of a file are those of the nodes that are taken at its top level. -/
theorem callSpans_visited (file : Tree) : (Expr.callsOfAll file.visited.1).map Expr.span =
    file.ordered.flatMap fun t => (sites (t.order true file.declarations .statement)).map span := by
  rw [visited_eq]
  exact Task.piecewise_takeAll (fun x => (sites (x.2.order true file.declarations x.1)).map span)
    piecewise_callSpans (fun t _ => callSpans_does file.declarations .statement t) {}

theorem perm_ordered (file : Tree) : file.ordered.Perm file.parts := List.filter_append_perm _ _

/-! ## No node is visited twice -/

/-- The cases of a type switch have no role in it. -/
def Regular (t : Tree) : Prop :=
  t.kind = .typeSwitchStatement → ∀ c ∈ t.children, c.isCase = true →
    c.field ≠ some .initializer ∧ c.field ≠ some .value

instance (t : Tree) : Decidable t.Regular := inferInstanceAs (Decidable (_ → ∀ _ ∈ _, _ → _ ∧ _))

/-- Different roles are for different nodes. -/
theorem slots_roles {roles : List (Field × Slot)} (h : (roles.map (·.1)).Nodup) (c : Tree) :
    ((Search.roles roles).slots c).length ≤ 1 := by
  have hslots : ((Search.roles roles).slots c).length =
      (roles.filter fun x => c.field = some x.1).length := by
    simp [Search.slots, Search.roles, List.filter_map, Function.comp_def]
  rw [hslots]
  clear hslots
  induction roles with
  | nil => simp
  | cons x roles ih =>
    rw [List.map_cons, List.nodup_cons] at h
    by_cases hx : c.field = some x.1
    · have hnone : roles.filter (fun y => c.field = some y.1) = [] := by
        rw [List.filter_eq_nil_iff]
        intro y hy hfield
        have heq : x.1 = y.1 := Option.some.inj (hx.symm.trans (of_decide_eq_true hfield))
        exact h.1 (heq ▸ List.mem_map_of_mem hy)
      rw [List.filter_cons_of_pos (by simpa using hx), hnone]
      exact Nat.le_refl 1
    · rw [List.filter_cons_of_neg (by simpa using hx)]
      exact ih h.2

theorem slots_every (sort : Tree → Bool) (slot : Slot) (c : Tree) :
    ((Search.every sort slot).slots c).length ≤ 1 := by
  by_cases hc : sort c <;> simp [Search.slots, Search.every, hc]

theorem slots_search (h : t.Regular) (hc : c ∈ t.children) (slot : Slot) :
    ((t.search slot).slots c).length ≤ 1 := by
  have hroles : ∀ {roles : List (Field × Slot)}, (roles.map (·.1)).Nodup →
      ((Search.roles roles).slots c).length ≤ 1 := fun h => slots_roles h c
  have hevery : ∀ sort slot, ((Search.every sort slot).slots c).length ≤ 1 :=
    fun sort slot => slots_every sort slot c
  have hswitch : t.kind = .typeSwitchStatement → (Search.slots
      { Search.roles [(.initializer, .statement), (.value, .expression)] with
        always := fun c => if c.isCase then some .statement else none } c).length ≤ 1 := by
    intro hkind
    cases hcase : c.isCase with
    | false =>
      have hlength := slots_roles
        (by decide : ([(Field.initializer, Slot.statement), (.value, .expression)].map (·.1)).Nodup) c
      simpa [Search.slots, Search.roles, hcase] using hlength
    | true =>
      obtain ⟨hinitializer, hvalue⟩ := h hkind c hc hcase
      simp [Search.slots, Search.roles, hcase, hinitializer, hvalue]
  unfold search
  cases slot with
  | statement =>
    dsimp only
    split
    all_goals first
      | exact hroles (by decide)
      | exact hevery _ _
      | exact hswitch (by assumption)
      | (split <;> first | exact hroles (by decide) | exact hevery _ _)
  | expression =>
    dsimp only
    split
    case h_4 => exact (by cases hnamed : c.isNamed <;> simp [Search.slots, hnamed])
    all_goals first
      | exact hroles (by decide)
      | exact hevery _ _
      | (split <;> first | exact hroles (by decide) | exact hevery _ _)
  | list => exact hevery _ _
  | arguments => exact hevery _ _

theorem slots_after (s : Search) (b c : Tree) :
    ((s.after b).slots c).length ≤ (s.slots c).length := by
  have hsublist : ((s.after b).once.filter (·.1 c)).Sublist (s.once.filter (·.1 c)) :=
    List.Sublist.filter _ List.filter_sublist
  simp only [Search.slots, List.length_append, List.length_map]
  exact Nat.add_le_add_right hsublist.length_le _

mutual

/-- **No node is visited twice**, and nodes are visited in document order. -/
theorem sublist_gather (deep : Bool) : ∀ (slot : Slot) (t : Tree), (∀ u ∈ t.subtrees, u.Regular) →
    ((t.gather deep slot).map (·.2)).Sublist t.subtrees
  | slot, .node field kind span text children, h => by
    have hmarks : ∀ (t : Tree) slot, ((t.marks slot).map (·.2)).Sublist [t] := by
      intro t slot
      cases slot <;> simp [marks]
    rw [gather, subtrees, List.map_append]
    refine List.Sublist.append (hmarks _ _) ?_
    split
    · exact List.nil_sublist _
    · have hregular := h _ (by rw [subtrees]; exact List.mem_cons_self)
      refine sublist_gatherIn deep _ children (fun c hc => slots_search hregular hc _) fun u hu => h u ?_
      rw [subtrees]
      exact List.mem_cons_of_mem _ hu

theorem sublist_gatherIn (deep : Bool) : ∀ (s : Search) (cs : List Tree),
    (∀ c ∈ cs, (s.slots c).length ≤ 1) → (∀ u ∈ subtreesOfAll cs, u.Regular) →
      ((gatherIn deep s cs).map (·.2)).Sublist (subtreesOfAll cs)
  | s, [], _, _ => by
    rw [gatherIn, subtreesOfAll]
    exact .slnil
  | s, c :: cs, hs, h => by
    have hregular : ∀ u ∈ c.subtrees, u.Regular := by
      intro u hu
      refine h u ?_
      rw [subtreesOfAll]
      exact List.mem_append_left _ hu
    have hfirst : (((s.slots c).flatMap fun slot => c.gather deep slot).map (·.2)).Sublist c.subtrees := by
      have hlength := hs c List.mem_cons_self
      match hslots : s.slots c with
      | [] => exact List.nil_sublist _
      | [slot] =>
        rw [List.flatMap_singleton]
        exact sublist_gather deep slot c hregular
      | _ :: _ :: _ =>
        rw [hslots] at hlength
        simp at hlength
    have hrest : ((gatherIn deep (s.after c) cs).map (·.2)).Sublist (subtreesOfAll cs) := by
      refine sublist_gatherIn deep (s.after c) cs (fun b hb => ?_) fun u hu => h u ?_
      · exact Nat.le_trans (slots_after s c b) (hs b (List.mem_cons_of_mem _ hb))
      · rw [subtreesOfAll]
        exact List.mem_append_right _ hu
    rw [gatherIn, subtreesOfAll, List.map_append]
    exact hfirst.append hrest

end

theorem sublist_callSites {file : Tree} (h : ∀ u ∈ file.subtrees, u.Regular) :
    file.callSites.Sublist (file.subtrees.filter isApplied) := by
  have hsubtrees : file.subtrees = file :: subtreesOfAll file.children := by
    obtain ⟨field, kind, span, text, children⟩ := file
    rw [subtrees]
    rfl
  have hvisits : ((file.parts.flatMap fun t => t.gather true .statement).map (·.2)).Sublist
      file.subtrees := by
    rw [parts, ← gatherIn_every, hsubtrees]
    refine List.Sublist.cons _ (sublist_gatherIn true _ _ (fun c _ => slots_every _ _ c) fun u hu => ?_)
    exact h u (hsubtrees ▸ List.mem_cons_of_mem _ hu)
  have happlied : file.callSites.filter isApplied = file.callSites := by
    rw [List.filter_eq_self]
    intro c hc
    obtain ⟨x, hx, rfl⟩ := List.mem_map.1 hc
    have hsite := (List.mem_filter.1 hx).2
    rw [isSite, Bool.and_eq_true] at hsite
    exact hsite.2
  rw [← happlied]
  exact ((List.filter_sublist.map _).trans hvisits).filter _

end Tree

/-! ## The calls of a file -/

theorem callsOfAll_eq_flatMap (es : List Expr) : Expr.callsOfAll es = es.flatMap Expr.calls := by
  induction es with
  | nil => rfl
  | cons e es ih => rw [Expr.callsOfAll_cons, ih, List.flatMap_cons]

theorem perm_callsOfAll {es fs : List Expr} (h : es.Perm fs) :
    (Expr.callsOfAll es).Perm (Expr.callsOfAll fs) := by
  rw [callsOfAll_eq_flatMap, callsOfAll_eq_flatMap]
  exact h.flatMap_right _

/-- **The calls of a file are those that are visited in it**, each one once: no node is visited
twice, as the cases of a type switch have no role in it. -/
theorem calls_perm_callSites (file : Tree) (path : String) :
    ((SourceUnit.calls ⟨path, (lowerFile file).1⟩).map Expr.span).Perm (file.callSites.map Tree.span) ∧
      ((∀ u ∈ file.subtrees, u.Regular) →
        file.callSites.Sublist (file.subtrees.filter Tree.isApplied)) := by
  refine ⟨?_, Tree.sublist_callSites⟩
  have hsorted : (Expr.callsOfAll (lowerFile file).1).Perm (Expr.callsOfAll file.visited.1) :=
    perm_callsOfAll (Tree.perm_lowerFile file)
  refine (hsorted.map Expr.span).trans ?_
  rw [Tree.callSpans_visited, Tree.callSites, sites_flatMap, List.map_flatMap]
  refine (Tree.perm_ordered file).flatMap fun t _ => ?_
  exact (perm_sites (Tree.perm_order true file.declarations .statement t)).map _

/-- A file with calls in a function literal, in a type switch and on both sides of a range clause. -/
def nestedCalls : String :=
  "package p\nfunc f(x any) \x7b\n\tg(func() \x7b\n" ++
    "\t\tswitch h(); y := k().(type) \x7b\n\t\tcase int:\n\t\t\tl(y)\n\t\t\x7d\n\t\x7d)\n" ++
    "\tfor a[m()] = range n() \x7b\n\t\x7d\n\x7d\n"

theorem calls_perm_nested : ∃ file : Tree, Tree.ofSource? nestedCalls = some file ∧
    file.callSites.length = 6 ∧
    ((SourceUnit.calls ⟨"p.go", (lowerFile file).1⟩).map Expr.span).Perm (file.callSites.map Tree.span) ∧
    (∀ u ∈ file.subtrees, u.Regular) ∧ file.callSites.Sublist (file.subtrees.filter Tree.isApplied) := by
  have hfile : ∃ file ∈ Tree.ofSource? nestedCalls,
      file.callSites.length = 6 ∧ ∀ u ∈ file.subtrees, u.Regular := by
    rw [Tree.ofSource?_eq]
    decide +kernel
  obtain ⟨file, hfile, hlength, hregular⟩ := hfile
  have hcalls := calls_perm_callSites file "p.go"
  exact ⟨file, hfile, hlength, hcalls.1, hregular, hcalls.2 hregular⟩

end LogStyle.Go
