import LogStyle.Proofs.Coverage

/-!
# Trees in source order

In an arranged tree the nodes right below a node lie inside of it, one after the other, and those that
have a role stand in the order that the grammar has for them.

* `Tree.Arranged`: a node with the nodes below it in source order.
* `Tree.leads_subtrees`: **the nodes of an arranged tree are in source order.**
* `Tree.before_roots`: the expressions that statements are made of lie one after the other.
* `Tree.gatherIn_eq_found`: nodes that are looked for one sort after the other are found in document
  order, if the sorts stand in that order.
-/

namespace LogStyle

/-- A span begins no later than another one, and has it inside or ends before it. -/
def Span.Leads (s u : Span) : Prop :=
  s.start.offset ≤ u.start.offset ∧
    (u.stop.offset ≤ s.stop.offset ∨ s.stop.offset ≤ u.start.offset)

instance (s u : Span) : Decidable (s.Leads u) := inferInstanceAs (Decidable (_ ∧ _))

theorem Span.Inside.refl (s : Span) : s.Inside s := ⟨Nat.le_refl _, Nat.le_refl _⟩

namespace Go

/-- The expressions among nodes that are visited. -/
def expressions (visits : List (Role × Tree)) : List Tree :=
  (visits.filter (·.1 = .expression)).map (·.2)

theorem expressions_append (xs ys : List (Role × Tree)) :
    expressions (xs ++ ys) = expressions xs ++ expressions ys := by
  simp [expressions]

theorem expressions_flatMap {α : Type} (l : List α) (f : α → List (Role × Tree)) :
    expressions (l.flatMap f) = l.flatMap fun x => expressions (f x) := by
  rw [expressions, List.filter_flatMap, List.map_flatMap]
  rfl

namespace Tree

/-- The place of a node among its siblings, as far as the grammar has one for its role: the left side,
the called function and the initializer come first, and the cases of a switch come last. -/
def rank (t : Tree) : Option Nat :=
  match t.field with
  | some .left | some .function | some .initializer => some 0
  | some .right | some .arguments | some .value => some 1
  | some _ => none
  | none => if t.isCase then some 2 else none

/-- A node with the nodes below it in source order. A call covers some text, and cases have no role. -/
structure Arranged (t : Tree) : Prop where
  forward : t.span.start.offset ≤ t.span.stop.offset
  covers : t.isApplied = true → t.span.start.offset < t.span.stop.offset
  inside : ∀ c ∈ t.children, c.span.Inside t.span
  before : t.children.Pairwise fun a b => a.span.stop.offset ≤ b.span.start.offset
  ranked : t.children.Pairwise fun a b => ∀ i ∈ a.rank, ∀ j ∈ b.rank, i ≤ j
  cases_ : ∀ c ∈ t.children, c.isCase = true → c.field = none

instance (t : Tree) : Decidable t.Arranged :=
  decidable_of_iff (t.span.start.offset ≤ t.span.stop.offset ∧
      (t.isApplied = true → t.span.start.offset < t.span.stop.offset) ∧
      (∀ c ∈ t.children, c.span.Inside t.span) ∧
      (t.children.Pairwise fun a b => a.span.stop.offset ≤ b.span.start.offset) ∧
      (t.children.Pairwise fun a b => ∀ i ∈ a.rank, ∀ j ∈ b.rank, i ≤ j) ∧
      ∀ c ∈ t.children, c.isCase = true → c.field = none)
    ⟨fun ⟨h₁, h₂, h₃, h₄, h₅, h₆⟩ => ⟨h₁, h₂, h₃, h₄, h₅, h₆⟩,
      fun h => ⟨h.forward, h.covers, h.inside, h.before, h.ranked, h.cases_⟩⟩

variable {deep : Bool} {d : Declarations} {t c u : Tree} {slot : Slot} {role : Role}

theorem Arranged.regular (h : t.Arranged) : t.Regular := by
  intro _ c hc hcase
  simp [h.cases_ c hc hcase]

theorem mem_subtrees_self (t : Tree) : t ∈ t.subtrees := by
  obtain ⟨field, kind, span, text, children⟩ := t
  rw [subtrees]
  exact List.mem_cons_self

theorem mem_subtrees_of_children (hc : c ∈ t.children) (hu : u ∈ c.subtrees) : u ∈ t.subtrees := by
  obtain ⟨field, kind, span, text, children⟩ := t
  rw [subtrees]
  exact List.mem_cons_of_mem _ (mem_subtreesOfAll hc hu)

mutual

theorem mem_subtrees_trans : ∀ t : Tree, c ∈ t.subtrees → u ∈ c.subtrees → u ∈ t.subtrees
  | .node field kind span text children, hc, hu => by
    rw [subtrees] at hc ⊢
    rcases List.mem_cons.1 hc with rfl | hc
    · rwa [subtrees] at hu
    · exact List.mem_cons_of_mem _ (mem_subtreesOfAll_trans children hc hu)

theorem mem_subtreesOfAll_trans : ∀ ts : List Tree, c ∈ subtreesOfAll ts → u ∈ c.subtrees →
    u ∈ subtreesOfAll ts
  | [], hc, _ => by
    rw [subtreesOfAll] at hc
    cases hc
  | t :: ts, hc, hu => by
    rw [subtreesOfAll] at hc ⊢
    rcases List.mem_append.1 hc with hc | hc
    · exact List.mem_append_left _ (mem_subtrees_trans t hc hu)
    · exact List.mem_append_right _ (mem_subtreesOfAll_trans ts hc hu)

end

/-! ## The nodes of an arranged tree -/

mutual

/-- Where nodes lie inside of their parents, all nodes of a tree lie inside of it. -/
theorem inside_subtrees : ∀ t : Tree, (∀ u ∈ t.subtrees, ∀ c ∈ u.children, c.span.Inside u.span) →
    ∀ u ∈ t.subtrees, u.span.Inside t.span
  | .node field kind span text children, h, u, hu => by
    have hinside := h _ (mem_subtrees_self _)
    rw [subtrees] at h hu
    rcases List.mem_cons.1 hu with rfl | hu
    · exact .refl _
    · have hbelow := inside_subtreesOfAll children (fun u hu => h u (List.mem_cons_of_mem _ hu)) u hu
      obtain ⟨c, hc, hbelow⟩ := hbelow
      exact hbelow.trans (hinside c hc)

theorem inside_subtreesOfAll : ∀ cs : List Tree,
    (∀ u ∈ subtreesOfAll cs, ∀ c ∈ u.children, c.span.Inside u.span) →
    ∀ u ∈ subtreesOfAll cs, ∃ c ∈ cs, u.span.Inside c.span
  | [], _, u, hu => by
    rw [subtreesOfAll] at hu
    cases hu
  | c :: cs, h, u, hu => by
    rw [subtreesOfAll] at h hu
    rcases List.mem_append.1 hu with hu | hu
    · exact ⟨c, List.mem_cons_self,
        inside_subtrees c (fun u hu => h u (List.mem_append_left _ hu)) u hu⟩
    · obtain ⟨b, hb, hinside⟩ :=
        inside_subtreesOfAll cs (fun u hu => h u (List.mem_append_right _ hu)) u hu
      exact ⟨b, List.mem_cons_of_mem _ hb, hinside⟩

end

mutual

/-- **The nodes of an arranged tree are in source order**, a node before those inside of it. -/
theorem leads_subtrees : ∀ t : Tree, (∀ u ∈ t.subtrees, u.Arranged) →
    t.subtrees.Pairwise fun a b => a.span.Leads b.span
  | .node field kind span text children, h => by
    have harranged := h _ (mem_subtrees_self _)
    have hinside := inside_subtrees _ fun u hu => (h u hu).inside
    rw [subtrees] at h hinside ⊢
    rw [List.pairwise_cons]
    refine ⟨fun u hu => ?_, ?_⟩
    · obtain ⟨hstart, hstop⟩ := hinside u (List.mem_cons_of_mem _ hu)
      exact ⟨hstart, .inl hstop⟩
    · exact leads_subtreesOfAll children harranged.before fun u hu => h u (List.mem_cons_of_mem _ hu)

theorem leads_subtreesOfAll : ∀ cs : List Tree,
    (cs.Pairwise fun a b => a.span.stop.offset ≤ b.span.start.offset) →
    (∀ u ∈ subtreesOfAll cs, u.Arranged) →
      (subtreesOfAll cs).Pairwise fun a b => a.span.Leads b.span
  | [], _, _ => by
    rw [subtreesOfAll]
    exact .nil
  | c :: cs, hcs, h => by
    rw [subtreesOfAll] at h ⊢
    obtain ⟨hc, hcs⟩ := List.pairwise_cons.1 hcs
    have hfirst : ∀ u ∈ c.subtrees, u.Arranged := fun u hu => h u (List.mem_append_left _ hu)
    have hrest : ∀ u ∈ subtreesOfAll cs, u.Arranged := fun u hu => h u (List.mem_append_right _ hu)
    rw [List.pairwise_append]
    refine ⟨leads_subtrees c hfirst, leads_subtreesOfAll cs hcs hrest, fun a ha b hb => ?_⟩
    -- all of the first node comes before all of the later ones
    obtain ⟨-, hstop⟩ := inside_subtrees c (fun u hu => (hfirst u hu).inside) a ha
    obtain ⟨b', hb', hstart, -⟩ := inside_subtreesOfAll cs (fun u hu => (hrest u hu).inside) b hb
    have hforward := (hfirst a ha).forward
    have hbefore := hc b' hb'
    exact ⟨by omega, .inr (by omega)⟩

end

/-! ## Expressions of statements -/

theorem mem_expressions {visits : List (Role × Tree)} :
    t ∈ expressions visits ↔ (.expression, t) ∈ visits := by
  constructor
  · intro h
    obtain ⟨⟨role, t⟩, hx, rfl⟩ := List.mem_map.1 h
    obtain ⟨hx, hrole⟩ := List.mem_filter.1 hx
    obtain rfl := of_decide_eq_true hrole
    exact hx
  · exact fun h => List.mem_map.2 ⟨_, List.mem_filter.2 ⟨h, by simp⟩, rfl⟩

mutual

/-- The expressions that a statement is made of lie one after the other. -/
theorem before_roots : ∀ (slot : Slot) (t : Tree), (∀ u ∈ t.subtrees, u.Arranged) →
    (expressions (t.gather false slot)).Pairwise fun a b => a.span.stop.offset ≤ b.span.start.offset
  | slot, .node field kind span text children, h => by
    have harranged := h _ (mem_subtrees_self _)
    rw [gather]
    rw [subtrees] at h
    -- an expression is not entered, and nothing else counts itself
    cases hslot : settle (.node field kind span text children) slot with
    | expression => exact List.pairwise_singleton _ _
    | statement | list | arguments =>
      exact before_rootsIn _ children (fun c hc => slots_search harranged.regular hc _)
        harranged.before fun u hu => h u (List.mem_cons_of_mem _ hu)

theorem before_rootsIn : ∀ (s : Search) (cs : List Tree),
    (∀ c ∈ cs, (s.slots c).length ≤ 1) →
    (cs.Pairwise fun a b => a.span.stop.offset ≤ b.span.start.offset) →
    (∀ u ∈ subtreesOfAll cs, u.Arranged) →
      (expressions (gatherIn false s cs)).Pairwise fun a b => a.span.stop.offset ≤ b.span.start.offset
  | s, [], _, _, _ => by
    rw [gatherIn]
    exact .nil
  | s, c :: cs, hs, hcs, h => by
    rw [subtreesOfAll] at h
    obtain ⟨hc, hcs⟩ := List.pairwise_cons.1 hcs
    have hfirst : ∀ u ∈ c.subtrees, u.Arranged := fun u hu => h u (List.mem_append_left _ hu)
    have hrest : ∀ u ∈ subtreesOfAll cs, u.Arranged := fun u hu => h u (List.mem_append_right _ hu)
    have hslots : ∀ b ∈ cs, ((s.after c).slots b).length ≤ 1 := fun b hb =>
      Nat.le_trans (slots_after s c b) (hs b (List.mem_cons_of_mem _ hb))
    rw [gatherIn, expressions_append, List.pairwise_append]
    refine ⟨?_, before_rootsIn (s.after c) cs hslots hcs hrest, ?_⟩
    · rw [expressions_flatMap]
      have hlength := hs c List.mem_cons_self
      match hone : s.slots c with
      | [] => exact .nil
      | [slot] =>
        rw [List.flatMap_singleton]
        exact before_roots slot c hfirst
      | _ :: _ :: _ =>
        rw [hone] at hlength
        simp at hlength
    · intro a ha b hb
      have hcall : ∀ (slot : Slot), (.expression, a) ∈ c.gather false slot → a ∈ c.subtrees := by
        intro slot hslot
        exact (sublist_gather false slot c fun u hu => (hfirst u hu).regular).subset
          (List.mem_map_of_mem hslot)
      obtain ⟨slot, -, hslot⟩ := List.mem_flatMap.1 (mem_expressions.1 ha)
      have hlater := (sublist_gatherIn false (s.after c) cs hslots
        fun u hu => (hrest u hu).regular).subset (List.mem_map_of_mem (mem_expressions.1 hb))
      obtain ⟨-, hstop⟩ :=
        inside_subtrees c (fun u hu => (hfirst u hu).inside) a (hcall slot hslot)
      obtain ⟨b', hb', hstart, -⟩ :=
        inside_subtreesOfAll cs (fun u hu => (hrest u hu).inside) b hlater
      exact Nat.le_trans hstop (Nat.le_trans (hc b' hb') hstart)

end

/-! ## Sorts that stand in order -/

/-- The sorts that are looked for stand in the order in which they are listed, and what is visited in
any case comes last. -/
def InOrder (s : Search) (cs : List Tree) : Prop :=
  cs.Pairwise fun a b =>
    (s.once.Pairwise fun x y => y.1 a = true → x.1 b = false) ∧
      ((s.always a).isSome = true → ∀ x ∈ s.once, x.1 b = false)

/-- A list that is gone through in two parts. -/
theorem flatMap_partition {α β : Type} {p : α → Bool} {f g : α → List β} {l : List α}
    (h : l.Pairwise fun x y => p x = false → p y = true → g x = []) :
    (l.filter p).flatMap f ++ (l.filter (!p ·)).flatMap g = l.flatMap fun x => if p x then f x else g x := by
  induction l with
  | nil => rfl
  | cons x l ih =>
    obtain ⟨hx, hl⟩ := List.pairwise_cons.1 h
    have ih := ih hl
    cases hp : p x with
    | true => simp [hp, ← ih]
    | false =>
      simp only [hp, Bool.not_false, List.filter_cons_of_pos, List.flatMap_cons, ← ih,
        Bool.false_eq_true, if_false, not_false_eq_true, List.filter_cons_of_neg]
      cases hfilter : l.filter p with
      | nil => rfl
      | cons y ys =>
        have hy : y ∈ l.filter p := hfilter ▸ List.mem_cons_self
        rw [hx y (List.mem_of_mem_filter hy) hp (List.mem_filter.1 hy).2]
        rfl

/-- **Nodes that are looked for one sort after the other are found in document order**, if the sorts
stand in that order. -/
theorem gatherIn_eq_found {s : Search} {cs : List Tree} (h : InOrder s cs) :
    gatherIn deep s cs = s.found deep cs := by
  induction cs generalizing s with
  | nil => simp [gatherIn, Search.found]
  | cons c cs ih =>
    obtain ⟨hc, hcs⟩ := List.pairwise_cons.1 h
    let first := fun x : (Tree → Bool) × Slot => c.gather deep x.2
    let later := fun x : (Tree → Bool) × Slot =>
      (cs.find? x.1).toList.flatMap fun c => c.gather deep x.2
    let here := (s.always c).toList.flatMap fun slot => c.gather deep slot
    let further := cs.flatMap fun c => (s.always c).toList.flatMap fun slot => c.gather deep slot
    have hnone : ∀ x : (Tree → Bool) × Slot, (∀ b ∈ cs, x.1 b = false) → later x = [] := by
      intro x hx
      have hfind : cs.find? x.1 = none := List.find?_eq_none.2 fun b hb => by simp [hx b hb]
      simp [later, hfind]
    have hafter : InOrder (s.after c) cs := by
      refine hcs.imp fun hab => ⟨hab.1.filter _, fun halways x hx => ?_⟩
      exact hab.2 halways x (List.mem_of_mem_filter hx)
    have hgather : gatherIn deep s (c :: cs) = (s.once.filter (·.1 c)).flatMap first ++ here ++
        ((s.once.filter (!·.1 c)).flatMap later ++ further) := by
      rw [gatherIn, ih hafter, Search.slots, List.flatMap_append, List.flatMap_map]
      rfl
    have hfound : s.found deep (c :: cs) =
        (s.once.flatMap fun x => if x.1 c then first x else later x) ++ (here ++ further) := by
      have hboth : (s.once.flatMap fun x => ((c :: cs).find? x.1).toList.flatMap fun c =>
          c.gather deep x.2) = s.once.flatMap fun x => if x.1 c then first x else later x := by
        refine List.flatMap_congr fun x _ => ?_
        cases hx : x.1 c <;> simp [hx, first, later]
      rw [Search.found, hboth]
      rfl
    -- a sort that comes before one of the first node is not found later on
    have hordered : s.once.Pairwise fun x y => x.1 c = false → y.1 c = true → later x = [] := by
      rw [List.pairwise_iff_forall_sublist]
      intro x y hxy _ hy
      exact hnone x fun b hb => List.pairwise_iff_forall_sublist.1 (hc b hb).1 hxy hy
    rw [hgather, hfound, ← flatMap_partition hordered]
    cases halways : s.always c with
    | none =>
      have hhere : here = [] := by simp [here, halways]
      simp [hhere]
    | some slot =>
      have hlater : (s.once.filter (!·.1 c)).flatMap later = [] := by
        rw [List.flatMap_eq_nil_iff]
        intro x hx
        exact hnone x fun b hb => (hc b hb).2 (by simp [halways]) x (List.mem_of_mem_filter hx)
      simp [hlater]

theorem inOrder_every (sort : Tree → Bool) (slot : Slot) (cs : List Tree) :
    InOrder (.every sort slot) cs :=
  List.pairwise_of_forall fun _ _ => ⟨.nil, fun _ _ hx => by cases hx⟩

theorem inOrder_once (sort : Tree → Bool) (slot : Slot) (cs : List Tree) :
    InOrder ⟨[(sort, slot)], fun _ => none⟩ cs :=
  List.pairwise_of_forall fun _ _ => ⟨List.pairwise_singleton _ _, fun h => by cases h⟩

/-- Roles stand in the order that the grammar has for them. -/
theorem inOrder_roles (h : t.Arranged) {first last : Field} {i j : Nat} (slot slot' : Slot)
    (hfirst : ∀ c : Tree, c.field = some first → c.rank = some i)
    (hlast : ∀ c : Tree, c.field = some last → c.rank = some j) (hij : i < j) :
    InOrder (.roles [(first, slot), (last, slot')]) t.children := by
  refine h.ranked.imp fun {a b} hab => ⟨?_, fun h => by cases h⟩
  simp only [Search.roles, List.map_cons, List.map_nil, List.pairwise_cons, List.mem_singleton,
    forall_eq, List.not_mem_nil, false_implies, implies_true, List.Pairwise.nil, and_true,
    decide_eq_true_eq, decide_eq_false_iff_not]
  intro ha hb
  have hle := hab j (hlast a ha) i (hfirst b hb)
  omega

theorem inOrder_search (h : t.Arranged) (slot : Slot) : InOrder (t.search slot) t.children := by
  have hevery := fun sort slot => inOrder_every sort slot t.children
  have hone : ∀ field slot, InOrder (.roles [(field, slot)]) t.children :=
    fun field slot => inOrder_once _ slot t.children
  have hnothing : InOrder (.roles []) t.children :=
    List.pairwise_of_forall fun _ _ => ⟨.nil, fun _ _ hx => by cases hx⟩
  have hsides : ∀ slot slot', InOrder (.roles [(.left, slot), (.right, slot')]) t.children :=
    fun slot slot' => inOrder_roles h slot slot' (i := 0) (j := 1) (fun c hc => by simp [rank, hc])
      (fun c hc => by simp [rank, hc]) (by decide)
  have hcall : InOrder (.roles [(.function, .expression), (.arguments, .arguments)]) t.children :=
    inOrder_roles h _ _ (i := 0) (j := 1) (fun c hc => by simp [rank, hc])
      (fun c hc => by simp [rank, hc]) (by decide)
  have hswitch : InOrder { Search.roles [(.initializer, .statement), (.value, .expression)] with
      always := fun c => if c.isCase then some .statement else none } t.children := by
    have hroles : InOrder (.roles [(.initializer, .statement), (.value, .expression)]) t.children :=
      inOrder_roles h _ _ (i := 0) (j := 1) (fun c hc => by simp [rank, hc])
        (fun c hc => by simp [rank, hc]) (by decide)
    refine (hroles.and h.ranked).imp_of_mem fun {a b} ha _ hab => ⟨hab.1.1, fun halways x hx => ?_⟩
    -- a case comes last
    have hcase : a.isCase = true := by
      cases hcase : a.isCase
      · simp [hcase] at halways
      · rfl
    have hlast : a.rank = some 2 := by simp [rank, h.cases_ a ha hcase, hcase]
    have hrank : ∀ j ∈ b.rank, 2 ≤ j := hab.2 2 hlast
    simp only [Search.roles, List.map_cons, List.map_nil, List.mem_cons, List.not_mem_nil,
      or_false] at hx
    rcases hx with rfl | rfl
    · exact decide_eq_false fun hb => absurd (hrank 0 (by simp [rank, hb])) (by decide)
    · exact decide_eq_false fun hb => absurd (hrank 1 (by simp [rank, hb])) (by decide)
  unfold search
  cases slot with
  | statement =>
    dsimp only
    split
    all_goals first
      | exact hone _ _
      | exact hswitch
      | exact hnothing
      | (split <;> first | exact hone _ _ | exact hsides _ _ | exact hnothing | exact hevery _ _)
  | expression =>
    dsimp only
    split
    all_goals first
      | exact hnothing
      | exact inOrder_once _ _ _
      | exact hone _ _
      | exact hevery _ _
      | (split <;> first | exact hone _ _ | exact hsides _ _ | exact hcall | exact hevery _ _)
  | list => exact hevery _ _
  | arguments => exact hevery _ _

end Tree

end Go

end LogStyle
