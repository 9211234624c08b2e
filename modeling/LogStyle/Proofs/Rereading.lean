import LogStyle.Proofs.Expressions

/-!
# Trees before and after a fix

An argument that is replaced was a literal and is one again, so that lowering it leaves nothing
behind but its identity. All other nodes correspond because the nodes below them do.

* `Tree.reads_meaning`: an expression lies where its node lies and is the literal that its node is.
* `Tree.textAt_meaning`: what lowering a literal leaves behind.
* `Meaning.Part`: nodes in a list of arguments that correspond.
* `Tree.sim_meaning`: **a tree and what becomes of it have corresponding meanings.**
-/

namespace LogStyle.Go

open Lower

variable {d : Declarations} {r : Rewrite}

/-! ## Places and literals -/

/-- All that work can give has a property. -/
def Lower.Gives {α : Type} (x : Lower α) (p : α → Prop) : Prop := ∀ s, p (x.run s).1

theorem Lower.gives_pure {α : Type} {p : α → Prop} {a : α} (h : p a) : Gives (pure a) p := fun _ => h

theorem Lower.Gives.bind {α β : Type} {q : α → Prop} {p : β → Prop} {x : Lower α}
    {f : α → Lower β} (hx : Gives x q) (h : ∀ a, q a → Gives (f a) p) : Gives (x >>= f) p :=
  fun s => h _ (hx s) _

theorem Lower.gives_bind {α β : Type} {p : β → Prop} {x : Lower α} {f : α → Lower β}
    (h : ∀ a, Gives (f a) p) : Gives (x >>= f) p := fun _ => h _ _

namespace Meaning

variable {t : Tree} {ms : List Meaning} {span : Span} {id : NodeId}

/-- An expression at a place that is no string literal. -/
def NoText (span : Span) (e : Expr) : Prop := e.span = span ∧ e.raw? = none

theorem gives_lowerOther {kind : Kind} : Gives (lowerOther kind span id ms) (NoText span) :=
  gives_bind fun _ => gives_pure ⟨rfl, rfl⟩

theorem gives_lowerBinary {operator : String} {left right : Meaning} :
    Gives (lowerBinary span id operator left right) (NoText span) :=
  gives_bind fun _ => gives_bind fun _ => gives_bind fun _ => gives_bind fun _ =>
    gives_bind fun _ => gives_pure ⟨rfl, rfl⟩

theorem gives_lowerUnary {operator : String} : Gives (lowerUnary span id operator ms) (NoText span) := by
  refine gives_bind fun children => ?_
  cases children <;> exact gives_bind fun _ => gives_bind fun _ => gives_pure ⟨rfl, rfl⟩

theorem gives_lowerSelector {operand : Meaning} {member : Tree} :
    Gives (lowerSelector d span id operand member) (NoText span) := by
  rw [lowerSelector_eq]
  exact gives_bind fun _ => gives_bind fun _ => gives_bind fun _ => gives_bind fun _ =>
    gives_pure ⟨rfl, rfl⟩

theorem gives_lowerCall {function : Meaning} :
    Gives (lowerCall d span id function (find? ms .arguments)) (NoText span) := by
  rw [lowerCall_eq]
  refine gives_bind fun callee => gives_bind fun args => gives_bind fun state => ?_
  dsimp only
  rcases callResults d state callee with _ | ⟨single, _ | ⟨next, rest⟩⟩
  · exact gives_pure ⟨rfl, rfl⟩
  · exact gives_bind fun _ => gives_bind fun _ => gives_pure ⟨rfl, rfl⟩
  · exact gives_bind fun _ => gives_pure ⟨rfl, rfl⟩

/-- The literal that a node is, given the meanings of the nodes below it. -/
def rawOf? (t : Tree) (ms : List Meaning) : Option String :=
  match t.kind with
  | .interpretedStringLiteral | .rawStringLiteral => some t.text
  | .parenthesizedExpression => (named ms).head?.bind (·.tree.raw?)
  | _ => none

/-- An expression lies where its node lies and is the literal that its node is. -/
theorem reads_lowerNode (h : ∀ m ∈ (named ms).head?, Gives m.lower (·.raw? = m.tree.raw?)) :
    Gives (lowerNode d t ms) fun e => e.span = t.span ∧ e.raw? = rawOf? t ms := by
  refine gives_bind fun id => ?_
  have hother : ∀ {kind : Kind}, Gives (lowerOther kind t.span id ms) (NoText t.span) :=
    gives_lowerOther
  have htyped : ∀ {kind : Kind} (type : Option StaticType),
      Gives (do let e ← lowerOther kind t.span id ms; recordType? id type; return e)
        (NoText t.span) :=
    fun _ => hother.bind fun _ he => gives_bind fun _ => gives_pure he
  unfold rawOf?
  dsimp only
  generalize t.kind = kind
  cases kind
  case interpretedStringLiteral => exact gives_bind fun _ => gives_pure ⟨rfl, rfl⟩
  case rawStringLiteral => exact gives_bind fun _ => gives_pure ⟨rfl, rfl⟩
  case identifier => exact gives_bind fun _ => gives_pure ⟨rfl, rfl⟩
  case parenthesizedExpression =>
    cases hnamed : named ms with
    | nil => exact hother
    | cons m rest =>
      intro s
      exact ⟨rfl, h m (by rw [hnamed]; rfl) s⟩
  case binaryExpression =>
    dsimp only
    split
    · exact gives_lowerBinary
    · exact hother
  case selectorExpression =>
    dsimp only
    split
    · exact gives_lowerSelector
    · exact hother
  case callExpression =>
    dsimp only
    split
    · exact gives_lowerCall
    · exact hother
  case unaryExpression => exact gives_lowerUnary
  case funcLiteral => exact gives_bind fun _ => gives_pure ⟨rfl, rfl⟩
  case typeConversionExpression => exact htyped _
  case typeAssertionExpression => exact htyped _
  case compositeLiteral => exact htyped _
  all_goals exact hother

end Meaning

namespace Tree

theorem meanings_eq (d : Declarations) (ts : List Tree) : meanings d ts = ts.map (meaning d) := by
  induction ts with
  | nil => rw [meanings, List.map_nil]
  | cons t ts ih => rw [meanings, ih, List.map_cons]

@[simp] theorem tree_meaning (d : Declarations) (t : Tree) : (t.meaning d).tree = t := by
  cases t
  rw [meaning]
  rfl

theorem named_meanings (d : Declarations) (ts : List Tree) :
    Meaning.named (ts.map (meaning d)) = (ts.filter isNamed).map (meaning d) := by
  rw [Meaning.named, List.filter_map]
  simp [Function.comp_def]

theorem rawOfFirst?_eq (ts : List Tree) : rawOfFirst? ts = (ts.filter isNamed).head?.bind raw? := by
  induction ts with
  | nil => rfl
  | cons t ts ih =>
    rw [rawOfFirst?, List.filter_cons]
    split
    · rfl
    · exact ih

theorem rawOf?_meanings (d : Declarations) (t : Tree) :
    Meaning.rawOf? t (t.children.map (meaning d)) = t.raw? := by
  obtain ⟨field, kind, span, text, children⟩ := t
  unfold Meaning.rawOf?
  rw [named_meanings, List.head?_map, Option.bind_map]
  simp only [Function.comp_def, tree_meaning]
  by_cases hkind : kind = .parenthesizedExpression
  · subst hkind
    exact (rawOfFirst?_eq children).symm
  · cases kind <;> first | rfl | exact absurd rfl hkind

theorem lower_meaning (d : Declarations) (t : Tree) :
    (t.meaning d).lower = Meaning.lowerNode d t (t.children.map (meaning d)) := by
  cases t
  rw [meaning, meanings_eq]
  rfl

/-- **An expression lies where its node lies and is the literal that its node is.** -/
theorem reads_meaning (d : Declarations) (t : Tree) :
    Gives (t.meaning d).lower fun e => e.span = t.span ∧ e.raw? = t.raw? := by
  obtain ⟨field, kind, span, text, children⟩ := t
  rw [lower_meaning, ← rawOf?_meanings d]
  refine Meaning.reads_lowerNode fun m hm => ?_
  rw [named_meanings, List.head?_map, Option.mem_def, Option.map_eq_some_iff] at hm
  obtain ⟨c, hc, rfl⟩ := hm
  have hmem : c ∈ children := List.mem_of_mem_filter (List.mem_of_mem_head? hc)
  have ih := reads_meaning d c
  rw [tree_meaning]
  exact fun s => (ih s).2
termination_by sizeOf t

end Tree

/-! ## Literals in parentheses -/

/-- Lowering a literal in parentheses leaves nothing behind but a literal that is known to be a
text. -/
structure TextAt (s : State) (x : Lower Expr) : Prop where
  scopes : (x.run s).2.scopes = s.scopes
  blank : (x.run s).2.Blank
  keeps : s.Extends (x.run s).2
  covers : Window.Covers ⟨s.next, (x.run s).2⟩ (x.run s).1.stripParens.id
  note : (x.run s).2.note (x.run s).1.stripParens.id = { type := some .string }
  calls : (x.run s).1.calls = []

theorem textAt_literal {s : State} (hs : s.Blank) (span : Span) (text : String) :
    TextAt s (do let id ← fresh; recordType id .string; return .literal id span text) := by
  have hb : Begun s.next s.next s.bump s.bump := begun_fresh ⟨rfl, hs, hs⟩
  have hw := writes_recordType? (some .string) hb.blank
  refine ⟨hw.marks.scopes, hw.marks.blank hb.paired.left hb.left, ⟨?_, ?_⟩, ⟨Nat.le_refl _, ?_⟩,
    hw.note, Expr.calls_literal⟩
  · exact Nat.le_trans (Nat.le_succ _) hw.marks.continues.next_le
  · intro i hi
    exact hw.marks.note i (Nat.ne_of_lt hi)
  · exact Nat.lt_of_lt_of_eq hb.left hw.marks.next.symm

theorem textAt_paren {s : State} {x : Lower Expr} (hs : s.Blank) (hx : TextAt s.bump x)
    (span : Span) : TextAt s (do
      let id ← fresh
      let inner ← x
      recordType? id (← typeOf inner)
      return .paren id span inner) := by
  have hb : Begun s.next s.next s.bump s.bump := begun_fresh ⟨rfl, hs, hs⟩
  have hblank : ((x.run s.bump).2).note s.next = {} := (hx.keeps.note _ hb.left).trans hb.blank
  have hw := writes_recordType? ((x.run s.bump).2.note (x.run s.bump).1.id).type hblank
  -- the note on the parentheses is written last and touches no other
  have hlt : s.next < (x.run s.bump).2.next := Nat.lt_of_lt_of_le hb.left hx.keeps.next_le
  have hid : s.next < (x.run s.bump).1.stripParens.id := hx.covers.1
  refine ⟨hw.marks.scopes.trans hx.scopes, hw.marks.blank hx.blank hlt, ⟨?_, ?_⟩,
    ⟨Nat.le_of_lt hid, ?_⟩, ?_, ?_⟩
  · exact Nat.le_of_lt (Nat.lt_of_lt_of_eq hlt hw.marks.next.symm)
  · intro i hi
    exact (hw.marks.note i (Nat.ne_of_lt hi)).trans (hx.keeps.note i (Nat.lt_succ_of_lt hi))
  · exact Nat.lt_of_lt_of_eq hx.covers.2 hw.marks.next.symm
  · exact (hw.marks.note _ (Nat.ne_of_gt hid)).trans hx.note
  · exact Expr.calls_paren.trans hx.calls

/-- A node that is a literal, parentheses aside, is lowered to one. -/
theorem Tree.textAt_meaning (d : Declarations) : ∀ t : Tree, t.raw?.isSome = true →
    ∀ s : State, s.Blank → TextAt s (t.meaning d).lower
  | .node field kind span text children, h, s, hs => by
    rw [lower_meaning]
    rcases kind_of_raw? h with hkind | hkind | hkind
    · obtain rfl : kind = .interpretedStringLiteral := hkind
      exact textAt_literal hs span text
    · obtain rfl : kind = .rawStringLiteral := hkind
      exact textAt_literal hs span text
    · obtain rfl : kind = .parenthesizedExpression := hkind
      have hfirst : ((children.filter isNamed).head?.bind raw?).isSome = true := by
        rw [← rawOfFirst?_eq]
        exact h
      cases hnamed : children.filter isNamed with
      | nil => rw [hnamed] at hfirst; cases hfirst
      | cons c rest =>
        have hmem : c ∈ children := List.mem_of_mem_filter (p := isNamed) (by rw [hnamed]; simp)
        rw [hnamed] at hfirst
        have hms : Meaning.named (children.map (meaning d)) = c.meaning d :: rest.map (meaning d) := by
          rw [named_meanings, hnamed, List.map_cons]
        have ih := textAt_meaning d c hfirst s.bump fun i hi => hs i (Nat.le_of_succ_le hi)
        have hparen := textAt_paren hs ih span
        unfold Meaning.lowerNode
        simp only [kind, Tree.children, hms, Tree.span]
        exact hparen
termination_by t => sizeOf t

/-! ## Arguments -/

/-- Arguments that correspond, with the calls in them. -/
def ArgumentCalls (r : Rewrite) (w w' : Window) (e e' : Expr) : Prop :=
  Argument r w w' e e' ∧ List.Forall₂ (Call r w w') e.calls e'.calls

theorem stable_argumentCalls : Stable (ArgumentCalls r) :=
  fun _ _ _ _ _ _ hw hw' h => ⟨h.1.mono hw hw', forall₂_call_mono hw hw' h.2⟩

theorem sameCalls_of_argumentCalls {w w' : Window} {es es' : List Expr}
    (h : List.Forall₂ (ArgumentCalls r w w') es es') : SameCalls r w w' es es' := by
  induction h with
  | nil => exact .nil
  | cons h _ ih =>
    rw [SameCalls, Expr.callsOfAll_cons, Expr.callsOfAll_cons]
    exact List.rel_append h.2 ih

/-- Nodes in a list of arguments that correspond. -/
structure Meaning.Part (r : Rewrite) (m m' : Meaning) : Prop where
  named : m'.tree.isNamed = m.tree.isNamed
  isType : m.tree.isNamed = true → m'.kind.isType = m.kind.isType
  lower : m.tree.isNamed = true → Lower.Sim m.lower m'.lower (ArgumentCalls r)
  visit : m.tree.isNamed = true → Lower.Sim m.visit m'.visit (SameCalls r)

theorem forall₂_filter {α β : Type} {R : α → β → Prop} {p : α → Bool} {q : β → Bool} {as : List α}
    {bs : List β} (h : List.Forall₂ R as bs) (hpq : ∀ a b, R a b → q b = p a) :
    List.Forall₂ (fun a b => R a b ∧ p a = true) (as.filter p) (bs.filter q) := by
  induction h with
  | nil => exact .nil
  | @cons a b _ _ hab _ ih =>
    rw [List.filter_cons, List.filter_cons, hpq a b hab]
    cases hp : p a
    · exact ih
    · exact .cons ⟨hab, hp⟩ ih

namespace Meaning

variable {m m' : Meaning} {ms ms' : List Meaning} {t t' : Tree}

theorem sim_arguments (h : List.Forall₂ (Part r) ms ms') :
    Lower.Sim (lowerParts ms) (lowerParts ms') fun w w' es es' =>
      List.Forall₂ (Argument r w w') es es' ∧ SameCalls r w w' es es' := by
  have hnamed := forall₂_filter (p := (·.tree.isNamed)) (q := (·.tree.isNamed)) h
    fun _ _ hm => hm.named
  have hparts := forall₂_filter (p := (!·.kind.isType)) (q := (!·.kind.isType)) hnamed
    fun _ _ hm => by rw [hm.1.isType hm.2]
  have hlower := sim_lowerEach stable_argumentCalls (hparts.imp fun _ _ hm => hm.1.1.lower hm.1.2)
  exact hlower.imp fun _ _ _ _ hes => ⟨hes.imp fun _ _ h => h.1, sameCalls_of_argumentCalls hes⟩

theorem sim_argumentList (ht : t'.skeleton = t.skeleton) (hkind : t.kind = .argumentList)
    (h : List.Forall₂ (Part r) ms ms') : Sim r (ofNode d t ms) (ofNode d t' ms') := by
  have hkind' : t'.kind = .argumentList := (Tree.kind_eq ht).trans hkind
  have hlower : Lower.Sim (lowerNode d t ms) (lowerNode d t' ms') (Same r) := by
    intro s s' hp
    refine Node.simAt ?_
    simp only [hkind, hkind']
    exact node_other (begun_fresh hp) ((sim_arguments h).imp fun _ _ _ _ hes => hes.2)
  have hnamed := forall₂_filter (p := (·.tree.isNamed)) (q := (·.tree.isNamed)) h
    fun _ _ hm => hm.named
  refine ⟨ht, hlower, ?_, ?_, fun _ => sim_arguments h⟩
  · simp only [ofNode, visitNode, hkind, hkind']
    exact sim_visitEach (hnamed.imp fun _ _ hm => hm.1.visit hm.2)
  · simp only [ofNode, hkind, hkind']
    intro s s' hp
    refine (hlower s s' hp).bind stable_same fun _ _ t t' e e' ht _ => .pure ht ?_
    intro w w' _ _ he
    exact .cons he .nil

theorem sim_ofNode (ht : t'.skeleton = t.skeleton)
    (hrole : t.field = some .arguments → t.kind = .argumentList) (hkind : t.kind ≠ .argumentList)
    (h : List.Forall₂ (Sim r) ms ms') : Sim r (ofNode d t ms) (ofNode d t' ms') := by
  have hkind' := Tree.kind_eq ht
  have hlower := sim_lowerNode (d := d) ht h
  refine ⟨ht, hlower, sim_visitNode ht hlower h, ?_, fun hf => absurd (hrole hf) hkind⟩
  simp only [ofNode, hkind']
  split
  · exact sim_lowerEach stable_same ((forall₂_named h).imp fun _ _ hm => hm.lower)
  · intro s s' hp
    refine (hlower s s' hp).bind stable_same fun _ _ t t' e e' ht _ => .pure ht ?_
    intro w w' _ _ he
    exact .cons he .nil

end Meaning

/-! ## Trees -/

namespace Tree

variable {t t' : Tree} {ts ts' : List Tree}

theorem meaning_eq (d : Declarations) (t : Tree) :
    t.meaning d = .ofNode d t (t.children.map (meaning d)) := by
  cases t
  rw [meaning, meanings_eq]
  rfl

/-- A literal as a statement leaves itself behind. -/
theorem visit_of_raw? (h : t.raw?.isSome = true) :
    (t.meaning d).visit = do return [← (t.meaning d).lower] := by
  rw [meaning_eq]
  rcases kind_of_raw? h with hkind | hkind | hkind <;>
    simp only [Meaning.ofNode, Meaning.visitNode, hkind] <;> rfl

/-- An argument that is replaced by a literal. -/
theorem part_of_writes (hplain : t.isPlainText = true) (hwrites : r.writes t.span t' = true)
    (hmem : t ∈ r.arguments) : Meaning.Part r (t.meaning d) (t'.meaning d) := by
  obtain ⟨hplain', m, hm, hloc, hraw'⟩ := raw?_of_writes hwrites
  have hraw : t.raw?.isSome = true := (Bool.and_eq_true_iff.1 hplain).2
  have hsome' : t'.raw?.isSome = true := by
    rw [hraw']
    rfl
  have hnamed : t.isNamed = true := by
    rcases kind_of_raw? hraw with hk | hk | hk <;> simp [isNamed, hk]
  have hnamed' : t'.isNamed = true := by
    rcases kind_of_raw? hsome' with hk | hk | hk <;> simp [isNamed, hk]
  have htype : t.kind.isType = false := by
    rcases kind_of_raw? hraw with hk | hk | hk <;> simp [hk, Kind.isType]
  have htype' : t'.kind.isType = false := by
    rcases kind_of_raw? hsome' with hk | hk | hk <;> simp [hk, Kind.isType]
  -- both literals are texts, with nothing below them
  have hlower : Lower.Sim (t.meaning d).lower (t'.meaning d).lower (ArgumentCalls r) := by
    intro s s' hp
    have hleft := textAt_meaning d t hraw s hp.left
    have hright := textAt_meaning d t' hsome' s' hp.right
    obtain ⟨hspan, hread⟩ := reads_meaning d t s
    obtain ⟨-, hread'⟩ := reads_meaning d t' s'
    refine ⟨⟨?_, hleft.blank, hright.blank⟩, hleft.keeps, hright.keeps, ⟨⟨hleft.covers,
      hright.covers, hleft.note.trans hright.note.symm⟩, ?_, t, hmem, hspan.symm, hread.symm⟩, ?_⟩
    · rw [hleft.scopes, hright.scopes, hp.scopes]
    · refine .replaced hm ?_ (hread'.trans hraw')
      rw [hloc, hspan]
    · rw [hleft.calls, hright.calls]
      exact .nil
  refine ⟨?_, fun _ => ?_, fun _ => hlower, fun _ => ?_⟩
  · rw [tree_meaning, tree_meaning, hnamed, hnamed']
  · rw [Meaning.kind, Meaning.kind, tree_meaning, tree_meaning, htype, htype']
  · rw [visit_of_raw? hraw, visit_of_raw? hsome']
    intro s s' hp
    refine (hlower s s' hp).bind stable_argumentCalls fun _ _ t t' e e' ht _ => .pure ht ?_
    intro w w' _ _ he
    exact sameCalls_of_argumentCalls (.cons he .nil)

/-- An argument that stays what it is. -/
theorem part_of_sim (h : Meaning.Sim r (t.meaning d) (t'.meaning d))
    (hkept : t.isNamed = true → r.replaces t.span = false)
    (hmem : t.isNamed = true → t ∈ r.arguments) : Meaning.Part r (t.meaning d) (t'.meaning d) := by
  refine ⟨h.isNamed, fun _ => by rw [h.kind], fun hnamed => ?_, fun _ => h.visit⟩
  rw [tree_meaning] at hnamed
  intro s s' hp
  obtain ⟨hp', hl, hr, he⟩ := h.lower s s' hp
  obtain ⟨hspan, hread⟩ := reads_meaning d t s
  refine ⟨hp', hl, hr, ⟨he.inner.agree, .kept ?_ he.fragments, t, hmem hnamed, hspan.symm,
    hread.symm⟩, he.calls⟩
  intro m hm hloc
  have hreplaces : r.replaces t.span = true := by
    rw [Rewrite.replaces, List.any_eq_true]
    exact ⟨m, hm, decide_eq_true (by rw [hloc, hspan])⟩
  rw [hkept hnamed] at hreplaces
  cases hreplaces

mutual

/-- **A tree and what becomes of it have corresponding meanings.** -/
theorem sim_meaning (d : Declarations) : ∀ t t' : Tree, becomes r t t' = true →
    t.arguments ⊆ r.arguments → Meaning.Sim r (t.meaning d) (t'.meaning d)
  | .node field kind span text children, .node field' kind' span' text' children', h, hargs => by
    have hskeleton := skeleton_of_becomes _ _ h
    obtain ⟨-, -, -, hrole, hchildren⟩ := becomes_iff.1 h
    rw [meaning_eq, meaning_eq]
    rw [arguments] at hargs
    -- arguments may be replaced, other nodes only change below
    by_cases hkind : kind = .argumentList
    · subst hkind
      exact Meaning.sim_argumentList hskeleton rfl (part_meanings d children children' hchildren hargs)
    · have hfalse : decide (kind = .argumentList) = false := decide_eq_false hkind
      change becomesAll r (decide (kind = .argumentList)) children children' = true at hchildren
      rw [hfalse] at hchildren hargs
      exact Meaning.sim_ofNode hskeleton hrole hkind (sim_meanings d children children' hchildren hargs)

theorem sim_meanings (d : Declarations) : ∀ ts ts' : List Tree, becomesAll r false ts ts' = true →
    argumentsOfAll false ts ⊆ r.arguments →
    List.Forall₂ (Meaning.Sim r) (ts.map (meaning d)) (ts'.map (meaning d))
  | [], ts', h, _ => by
    simp only [becomesAll, List.isEmpty_iff] at h
    rw [h]
    exact .nil
  | t :: ts, [], h, _ => by simp [becomesAll] at h
  | t :: ts, t' :: ts', h, hargs => by
    simp only [becomesAll, Bool.false_and, Bool.false_eq_true, if_false, Bool.and_eq_true] at h
    simp only [argumentsOfAll, Bool.false_and, Bool.false_eq_true, if_false, List.nil_append,
      List.append_subset] at hargs
    exact .cons (sim_meaning d t t' h.1 hargs.1) (sim_meanings d ts ts' h.2 hargs.2)

theorem part_meanings (d : Declarations) : ∀ ts ts' : List Tree, becomesAll r true ts ts' = true →
    argumentsOfAll true ts ⊆ r.arguments →
    List.Forall₂ (Meaning.Part r) (ts.map (meaning d)) (ts'.map (meaning d))
  | [], ts', h, _ => by
    simp only [becomesAll, List.isEmpty_iff] at h
    rw [h]
    exact .nil
  | t :: ts, [], h, _ => by simp [becomesAll] at h
  | t :: ts, t' :: ts', h, hargs => by
    rw [becomesAll, Bool.and_eq_true, Bool.true_and] at h
    rw [argumentsOfAll, Bool.true_and, List.append_subset, List.append_subset] at hargs
    have hmem : t.isNamed = true → t ∈ r.arguments := by
      intro hnamed
      rw [if_pos hnamed] at hargs
      exact hargs.1.1 List.mem_cons_self
    refine .cons ?_ (part_meanings d ts ts' h.2 hargs.2)
    have hone := h.1
    split at hone
    · rename_i hc
      rw [Bool.and_eq_true] at hc hone
      exact part_of_writes hone.1 hone.2 (hmem hc.1)
    · rename_i hc
      refine part_of_sim (sim_meaning d t t' hone hargs.1.2) (fun hnamed => ?_) hmem
      simpa [hnamed] using hc

end

end Tree

end LogStyle.Go
