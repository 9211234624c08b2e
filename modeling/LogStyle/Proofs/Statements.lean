import LogStyle.Proofs.Correspondence

/-!
# Statements before and after a fix

Corresponding statements open the same blocks and declare the same names, and the calls in them
correspond.

* `Meaning.Sim`: nodes with corresponding meanings.
* `Meaning.sim_visitEach`: statements that are visited one after the other.
* `Meaning.sim_visitNode`: **corresponding nodes are corresponding statements.**
-/

namespace LogStyle.Go

open Lower
open Declarations (Member)

section

variable {α α' : Type} {Q : Window → Window → α → α' → Prop} {r : Rewrite} {s s' : State}
  {ms ms' : List Meaning}

theorem Lower.Stable.forall₂ (hQ : Stable Q) : Stable fun w w' => List.Forall₂ (Q w w') :=
  fun _ _ _ _ _ _ hw hw' h => h.imp fun _ _ h => hQ hw hw' h

theorem stable_same : Stable (Same r) := fun _ _ _ _ _ _ hw hw' h => h.mono hw hw'

theorem stable_sameCalls : Stable (SameCalls r) := fun _ _ _ _ _ _ hw hw' h => forall₂_call_mono hw hw' h

theorem stable_arguments : Stable fun w w' es es' =>
    List.Forall₂ (Argument r w w') es es' ∧ SameCalls r w w' es es' :=
  fun _ _ _ _ _ _ hw hw' h =>
    ⟨h.1.imp fun _ _ h => h.mono hw hw', stable_sameCalls hw hw' h.2⟩

namespace Meaning

theorem sim_lowerEach {Q : Window → Window → Expr → Expr → Prop} (hQ : Stable Q)
    (h : List.Forall₂ (fun m m' : Meaning => Sim m.lower m'.lower Q) ms ms') :
    Sim (lowerEach ms) (lowerEach ms') fun w w' => List.Forall₂ (Q w w') := by
  induction h with
  | nil => exact fun s s' hp => .pure hp .nil
  | cons hm _ ih =>
    intro s s' hp
    refine (hm s s' hp).bind hQ fun _ _ t t' e e' ht _ => ?_
    refine (ih t t' ht).bind hQ.forall₂ fun _ _ u u' es es' hu _ => .pure hu ?_
    intro w w' _ _ hes v v' hwv hwv' he
    exact .cons he (hQ.forall₂ hwv hwv' hes)

theorem sim_visitEach
    (h : List.Forall₂ (fun m m' : Meaning => Sim m.visit m'.visit (SameCalls r)) ms ms') :
    Sim (visitEach ms) (visitEach ms') (SameCalls r) := by
  induction h with
  | nil => exact fun s s' hp => .pure hp .nil
  | cons hm _ ih =>
    intro s s' hp
    refine (hm s s' hp).bind stable_sameCalls fun _ _ t t' es es' ht _ => ?_
    refine (ih t t' ht).bind stable_sameCalls fun _ _ u u' fs fs' hu _ => .pure hu ?_
    intro w w' _ _ hfs v v' hwv hwv' hes
    exact hes.append (stable_sameCalls hwv hwv' hfs)

end Meaning

/-! ## Names in sight -/

theorem sim_inBlock {x : Lower α} {x' : Lower α'} (h : Sim x x' Q) (hQ : Stable Q) :
    Sim (inBlock x) (inBlock x') Q := by
  intro s s' hp
  refine SimAt.modify_bind hp fun t t' ht => ?_
  refine (h t t' ht).bind hQ fun _ _ u u' a a' hu _ => ?_
  refine SimAt.modify_bind hu fun v v' hv => .pure hv ?_
  intro w w' _ _ ha
  exact ha

theorem declareAll_scopes (names : List String) (types : List (Option StaticType)) :
    ∃ g : Scopes → Scopes, ∀ s, (declareAll names types).run s = ((), { s with scopes := g s.scopes }) := by
  induction names generalizing types with
  | nil => exact ⟨id, fun s => rfl⟩
  | cons name names ih =>
    obtain ⟨g, hg⟩ := ih types.tail
    exact ⟨fun scopes => g (scopes.declare name types.head?.join), fun s => hg _⟩

theorem sim_declareAll (names : List String) (types : List (Option StaticType)) :
    Sim (declareAll names types) (declareAll names types) fun _ _ _ _ => True := by
  obtain ⟨g, hg⟩ := declareAll_scopes names types
  intro s s' hp
  refine ⟨?_, ?_, ?_, trivial⟩ <;> rw [hg]
  · rw [hg]
    exact ⟨congrArg g hp.scopes, hp.left, hp.right⟩
  · exact ⟨Nat.le_refl _, fun _ _ => rfl⟩
  · exact ⟨Nat.le_refl _, fun _ _ => rfl⟩

theorem stable_true : Stable fun (_ _ : Window) (_ : α) (_ : α') => True :=
  fun _ _ _ _ _ _ _ _ _ => trivial

end

namespace Meaning

/-- Nodes with corresponding meanings. -/
structure Sim (r : Rewrite) (m m' : Meaning) : Prop where
  skeleton : m'.tree.skeleton = m.tree.skeleton
  lower : Lower.Sim m.lower m'.lower (Same r)
  visit : Lower.Sim m.visit m'.visit (SameCalls r)
  list : Lower.Sim m.list m'.list fun w w' => List.Forall₂ (Same r w w')
  arguments : m.tree.field = some .arguments → Lower.Sim m.arguments m'.arguments
    fun w w' es es' => List.Forall₂ (Argument r w w') es es' ∧ SameCalls r w w' es es'

variable {r : Rewrite} {d : Declarations} {m m' : Meaning} {ms ms' : List Meaning} {role : Field}

theorem Sim.field (h : Sim r m m') : m'.tree.field = m.tree.field := by
  rw [← Tree.field_skeleton, h.skeleton, Tree.field_skeleton]

theorem Sim.kind (h : Sim r m m') : m'.kind = m.kind := Tree.kind_eq h.skeleton

theorem Sim.text (h : Sim r m m') : m'.tree.text = m.tree.text := by
  rw [← Tree.text_skeleton, h.skeleton, Tree.text_skeleton]

theorem Sim.isNamed (h : Sim r m m') : m'.tree.isNamed = m.tree.isNamed := by
  rw [← Tree.isNamed_skeleton, h.skeleton, Tree.isNamed_skeleton]

theorem Sim.typeOf (h : Sim r m m') : d.typeOf m'.tree = d.typeOf m.tree := by
  rw [← d.typeOf_skeleton, h.skeleton, d.typeOf_skeleton]

/-- The nodes with a role correspond. -/
theorem find?_sim (h : List.Forall₂ (Sim r) ms ms') (role : Field) :
    (find? ms role = none ∧ find? ms' role = none) ∨
      ∃ m m', find? ms role = some m ∧ find? ms' role = some m' ∧ Sim r m m' ∧
        m.tree.field = some role := by
  induction h with
  | nil => exact .inl ⟨rfl, rfl⟩
  | @cons m m' ms ms' hm _ ih =>
    unfold find? at ih ⊢
    rw [List.find?_cons, List.find?_cons, hm.field]
    cases hrole : decide (m.tree.field = some role)
    · simpa using ih
    · exact .inr ⟨m, m', rfl, rfl, hm, of_decide_eq_true hrole⟩

theorem forall₂_named (h : List.Forall₂ (Sim r) ms ms') :
    List.Forall₂ (Sim r) (named ms) (named ms') :=
  List.rel_filter (fun _ _ hm => by simp [hm.isNamed]) h

theorem sim_lowerParts (h : List.Forall₂ (Sim r) ms ms') :
    Lower.Sim (lowerParts ms) (lowerParts ms') fun w w' => List.Forall₂ (Same r w w') := by
  have hfilter : List.Forall₂ (Sim r) ((named ms).filter (!·.kind.isType))
      ((named ms').filter (!·.kind.isType)) :=
    List.rel_filter (fun _ _ hm => by simp [hm.kind]) (forall₂_named h)
  exact sim_lowerEach stable_same (hfilter.imp fun _ _ hm => hm.lower)

theorem sim_visitParts (h : List.Forall₂ (Sim r) ms ms') :
    Lower.Sim (visitParts ms) (visitParts ms') (SameCalls r) :=
  sim_visitEach ((forall₂_named h).imp fun _ _ hm => hm.visit)

/-! ## Statements -/

theorem declareParameters_skeleton (ts : List Tree) :
    declareParameters d (ts.map Tree.skeleton) = declareParameters d ts := by
  have hone : ∀ t : Tree, declareParameter d t.skeleton = declareParameter d t := by
    intro t
    unfold declareParameter
    simp only [Tree.child?_skeleton, Tree.kind_skeleton, Tree.childTexts_skeleton, Option.map_map,
      Function.comp_def, Declarations.typeOf_skeleton]
  induction ts with
  | nil => rfl
  | cons t ts ih => rw [List.map_cons, declareParameters, declareParameters, hone, ih]

theorem sim_declareParameters (ts : List Tree) :
    Lower.Sim (declareParameters d ts) (declareParameters d ts) fun _ _ _ _ => True := by
  induction ts with
  | nil => exact fun s s' hp => .pure hp trivial
  | cons t ts ih =>
    intro s s' hp
    refine (sim_declareAll _ _ s s' hp).bind stable_true fun _ _ t t' _ _ ht _ => ?_
    obtain ⟨hp, hl, hr, -⟩ := ih t t' ht
    exact ⟨hp, hl, hr, fun _ _ _ _ _ => trivial⟩

theorem parametersOf_sim (h : List.Forall₂ (Sim r) ms ms') :
    (parametersOf ms').map Tree.skeleton = (parametersOf ms).map Tree.skeleton := by
  unfold parametersOf
  rw [List.map_flatMap, List.map_flatMap]
  congr 1
  funext role
  rcases find?_sim h role with ⟨hm, hm'⟩ | ⟨m, m', hm, hm', hsim, -⟩
  · rw [hm, hm']
  · simp only [hm, hm', hsim.kind]
    split
    · rename_i hkind
      -- parameters are no arguments, so that none is left out of the skeleton
      have hparts : ∀ {t : Tree}, t.kind = .parameterList → t.parts.map Tree.skeleton = t.skeleton.parts :=
        fun ht => (Tree.parts_skeleton (by simp [ht])).symm
      rw [hparts hkind, hparts (hsim.kind.trans hkind), hsim.skeleton]
    · rfl

theorem sim_visitFunction (h : List.Forall₂ (Sim r) ms ms') :
    Lower.Sim (visitFunction d ms) (visitFunction d ms') (SameCalls r) := by
  refine sim_inBlock (fun s s' hp => ?_) stable_sameCalls
  -- what is declared is read off the skeletons, which are the same
  rw [← declareParameters_skeleton (parametersOf ms'), parametersOf_sim h, declareParameters_skeleton]
  refine (sim_declareParameters (parametersOf ms) s s' hp).bind stable_true fun _ _ t t' _ _ ht _ => ?_
  rcases find?_sim h .body with ⟨hm, hm'⟩ | ⟨m, m', hm, hm', hsim, -⟩
  · simp only [hm, hm']
    exact .pure ht fun _ _ _ _ _ => .nil
  · simp only [hm, hm']
    obtain ⟨hp, hl, hr, hcalls⟩ := hsim.visit t t' ht
    exact ⟨hp, hl, hr, fun w w' hw hw' _ => stable_sameCalls hw hw' hcalls⟩

theorem sim_listIn (h : List.Forall₂ (Sim r) ms ms') (role : Field) :
    Lower.Sim (listIn ms role) (listIn ms' role) fun w w' => List.Forall₂ (Same r w w') := by
  unfold listIn
  rcases find?_sim h role with ⟨hm, hm'⟩ | ⟨m, m', hm, hm', hsim, -⟩
  · rw [hm, hm']
    exact fun s s' hp => .pure hp .nil
  · rw [hm, hm']
    exact hsim.list

theorem identifiers_skeleton (t : Tree) : identifiers t.skeleton = identifiers t := by
  unfold identifiers
  rw [Tree.kind_skeleton]
  split
  · rename_i hkind
    rw [Tree.parts_skeleton (by simp [hkind])]
    simp [List.filter_map, Function.comp_def]
  · by_cases hkind : t.kind = .identifier <;> simp [hkind]

theorem leftNames_sim (h : List.Forall₂ (Sim r) ms ms') (role : Field) :
    leftNames ms' role = leftNames ms role := by
  unfold leftNames
  rcases find?_sim h role with ⟨hm, hm'⟩ | ⟨m, m', hm, hm', hsim, -⟩
  · rw [hm, hm']
  · simp only [hm, hm']
    rw [← identifiers_skeleton, hsim.skeleton, identifiers_skeleton]

/-- Corresponding values have the same types. -/
theorem valueTypes_of_same {s s' : State} {lo lo' : NodeId} {values values' : List Expr}
    (h : List.Forall₂ (Same r ⟨lo, s⟩ ⟨lo', s'⟩) values values') (names : Nat) :
    valueTypes s' values' names = valueTypes s values names := by
  have htype : ∀ {e e'}, Same r ⟨lo, s⟩ ⟨lo', s'⟩ e e' →
      s'.table.types.get? e'.id = s.table.types.get? e.id :=
    fun he => (congrArg Note.type he.shape.agree.note).symm
  have hresults : ∀ {e e'}, Same r ⟨lo, s⟩ ⟨lo', s'⟩ e e' →
      s'.results.get? e'.stripParens.id = s.results.get? e.stripParens.id :=
    fun he => (congrArg Note.results he.inner.agree.note).symm
  have hmap : ∀ {es es' : List Expr}, List.Forall₂ (Same r ⟨lo, s⟩ ⟨lo', s'⟩) es es' →
      es'.map (fun e => s'.table.types.get? e.id) = es.map fun e => s.table.types.get? e.id := by
    intro es es' hes
    induction hes with
    | nil => rfl
    | cons he _ ih => rw [List.map_cons, List.map_cons, htype he, ih]
  cases h with
  | nil => rfl
  | cons he hes =>
    cases hes with
    -- a single value may be a call with several results
    | nil => simp only [valueTypes, htype he, hresults he]
    | cons he' hes => exact hmap (.cons he (.cons he' hes))

theorem sim_visitDeclaration (names : List String) (declared : Option StaticType)
    {values values' : Lower (List Expr)}
    (h : Lower.Sim values values' fun w w' => List.Forall₂ (Same r w w')) :
    Lower.Sim (visitDeclaration names declared values) (visitDeclaration names declared values')
      (SameCalls r) := by
  intro s s' hp
  refine (h s s' hp).bind stable_same.forall₂ fun lo lo' t t' es es' ht hes => ?_
  refine .get_bind ?_
  rw [valueTypes_of_same hes]
  refine (sim_declareAll names _ t t' ht).bind stable_true fun _ _ u u' _ _ hu _ => .pure hu ?_
  intro w w' _ _ _ v v' _ _ hes
  exact sameCalls_of_same hes

/-- The node with a role as an expression, if there is one. -/
def lowerOne (ms : List Meaning) (role : Field) : Lower (List Expr) :=
  match find? ms role with
  | some m => do return [← m.lower]
  | none => return []

/-- The node with a role as a statement, if there is one. -/
def visitOne (ms : List Meaning) (role : Field) : Lower (List Expr) :=
  match find? ms role with
  | some m => m.visit
  | none => return []

theorem sim_lowerOne (h : List.Forall₂ (Sim r) ms ms') (role : Field) :
    Lower.Sim (lowerOne ms role) (lowerOne ms' role) (SameCalls r) := by
  intro s s' hp
  unfold lowerOne
  rcases find?_sim h role with ⟨hm, hm'⟩ | ⟨m, m', hm, hm', hsim, -⟩
  · simp only [hm, hm']
    exact .pure hp .nil
  · simp only [hm, hm']
    refine (hsim.lower s s' hp).bind stable_same fun _ _ t t' e e' ht _ => .pure ht ?_
    intro w w' _ _ he
    exact sameCalls_of_same (.cons he .nil)

theorem sim_visitOne (h : List.Forall₂ (Sim r) ms ms') (role : Field) :
    Lower.Sim (visitOne ms role) (visitOne ms' role) (SameCalls r) := by
  unfold visitOne
  rcases find?_sim h role with ⟨hm, hm'⟩ | ⟨m, m', hm, hm', hsim, -⟩
  · simp only [hm, hm']
    exact fun s s' hp => .pure hp .nil
  · simp only [hm, hm']
    exact hsim.visit

theorem visitReceiver_eq (t : Tree) (ms : List Meaning) : visitReceiver t ms = do
    let right ← lowerOne ms .right
    match find? ms .left with
    | none => return right
    | some left =>
      if t.hasToken ":=" then
        declareAll (identifiers left.tree) []
        return right
      else return right ++ (← left.list) := by
  unfold visitReceiver lowerOne
  cases find? ms .right <;> rfl

theorem visitTypeSwitch_eq (ms : List Meaning) : visitTypeSwitch ms = inBlock do
    let init ← visitOne ms .initializer
    let value ← lowerOne ms .value
    declareAll (leftNames ms .alias) []
    let cases ← visitEach (ms.filter fun m => m.kind = .typeCase || m.kind = .defaultCase)
    return init ++ value ++ cases := by
  unfold visitTypeSwitch visitOne lowerOne
  cases find? ms .initializer <;> cases find? ms .value <;> rfl

theorem sim_visitReceiver {t t' : Tree} (ht : t'.skeleton = t.skeleton)
    (h : List.Forall₂ (Sim r) ms ms') :
    Lower.Sim (visitReceiver t ms) (visitReceiver t' ms') (SameCalls r) := by
  have htoken : t'.hasToken ":=" = t.hasToken ":=" := by
    rw [← Tree.hasToken_skeleton, ht, Tree.hasToken_skeleton]
  intro s s' hp
  rw [visitReceiver_eq, visitReceiver_eq]
  refine (sim_lowerOne h .right s s' hp).bind stable_sameCalls fun _ _ u u' es es' hu hes => ?_
  rcases find?_sim h .left with ⟨hm, hm'⟩ | ⟨m, m', hm, hm', hsim, -⟩
  · simp only [hm, hm']
    exact .pure hu fun _ _ _ _ hes => hes
  · have hnames : identifiers m'.tree = identifiers m.tree := by
      rw [← identifiers_skeleton, hsim.skeleton, identifiers_skeleton]
    simp only [hm, hm', htoken, hnames]
    split
    · refine (sim_declareAll _ _ u u' hu).bind stable_true fun _ _ v v' _ _ hv _ => .pure hv ?_
      exact fun _ _ _ _ _ _ _ _ _ hes => hes
    · refine (hsim.list u u' hu).bind stable_same.forall₂ fun _ _ v v' fs fs' hv _ => .pure hv ?_
      intro w w' _ _ hfs x x' hx hx' hes
      exact hes.append (stable_sameCalls hx hx' (sameCalls_of_same hfs))

theorem sim_visitTypeSwitch (h : List.Forall₂ (Sim r) ms ms') :
    Lower.Sim (visitTypeSwitch ms) (visitTypeSwitch ms') (SameCalls r) := by
  have hcases : List.Forall₂ (Sim r) (ms.filter fun m => m.kind = .typeCase || m.kind = .defaultCase)
      (ms'.filter fun m => m.kind = .typeCase || m.kind = .defaultCase) :=
    List.rel_filter (fun _ _ hm => by simp [hm.kind]) h
  rw [visitTypeSwitch_eq, visitTypeSwitch_eq, leftNames_sim h]
  refine sim_inBlock (fun s s' hp => ?_) stable_sameCalls
  refine (sim_visitOne h .initializer s s' hp).bind stable_sameCalls fun _ _ t t' _ _ ht _ => ?_
  refine (sim_lowerOne h .value t t' ht).bind stable_sameCalls fun _ _ u u' _ _ hu _ => ?_
  refine (sim_declareAll _ _ u u' hu).bind stable_true fun _ _ v v' _ _ hv _ => ?_
  refine (sim_visitEach (hcases.imp fun _ _ hm => hm.visit) v v' hv).bind stable_sameCalls
    fun _ _ x x' cs cs' hx _ => .pure hx ?_
  -- each part is seen through the windows of all parts after it
  intro w₁ w₁' _ _ hcs w₂ w₂' h₁ h₁' _ w₃ w₃' h₂ h₂' hes w₄ w₄' h₃ h₃' hinit
  have hw := (h₁.trans h₂).trans h₃
  have hw' := (h₁'.trans h₂').trans h₃'
  exact (hinit.append (stable_sameCalls h₃ h₃' hes)).append (stable_sameCalls hw hw' hcs)

theorem typeIn_sim (h : List.Forall₂ (Sim r) ms ms') : typeIn d ms' = typeIn d ms := by
  unfold typeIn
  rcases find?_sim h .type with ⟨hm, hm'⟩ | ⟨m, m', hm, hm', hsim, -⟩
  · rw [hm, hm']
  · rw [hm, hm', Option.map_some, Option.map_some, hsim.typeOf]

/-- **Corresponding nodes are corresponding statements**, if the nodes below them correspond. -/
theorem sim_visitNode {t t' : Tree} {lower lower' : Lower Expr} (ht : t'.skeleton = t.skeleton)
    (hlower : Lower.Sim lower lower' (Same r)) (h : List.Forall₂ (Sim r) ms ms') :
    Lower.Sim (visitNode d t lower ms) (visitNode d t' lower' ms') (SameCalls r) := by
  have hkind := Tree.kind_eq ht
  have hnames : t'.childTexts .name = t.childTexts .name := by
    rw [← Tree.childTexts_skeleton, ht, Tree.childTexts_skeleton]
  have hnothing : Lower.Sim (pure []) (pure []) (SameCalls r) := fun s s' hp => .pure hp .nil
  have hexpr : Lower.Sim (do return [← lower]) (do return [← lower']) (SameCalls r) := by
    intro s s' hp
    refine (hlower s s' hp).bind stable_same fun _ _ t t' e e' ht _ => .pure ht ?_
    intro w w' _ _ he
    exact sameCalls_of_same (.cons he .nil)
  have hfunction := sim_visitFunction (d := d) h
  have hblock := sim_inBlock (sim_visitParts h) stable_sameCalls
  have hdeclaration := fun names declared role =>
    sim_visitDeclaration names declared (sim_listIn h role)
  have hreceiver := sim_visitReceiver ht h
  have hswitch := sim_visitTypeSwitch h
  have hparts := sim_visitParts h
  unfold visitNode
  rw [hkind, hnames, leftNames_sim h, typeIn_sim h]
  generalize t.kind = kind
  cases kind
  -- every kind of node is visited in one of these ways
  all_goals first
    | exact hparts
    | exact hexpr
    | exact hnothing
    | exact hblock
    | exact hfunction
    | exact hdeclaration _ _ _
    | exact hreceiver
    | exact hswitch

end Meaning

end LogStyle.Go
