import LogStyle.Proofs.Descent

/-!
# Notes that last

A node is given its identity, the work below it is done, and then its notes are written. Work that is
done later writes notes on later nodes only, so that the notes on a node stay as they are.

* `Lower.Composes`: what holds of work as soon as it holds of its pieces; `Task.runAll_of_taken`.
* `Lower.Keeps`: work that keeps the notes there are.
* `Noted`: the notes on an expression, given the names in sight and the notes on its parts.
* `Tree.finished`: the notes are written when a node is finished.
* `Tree.keeps_does`: **every node keeps the notes that are there**, in whatever role it is taken.
-/

namespace LogStyle.Go

open Lower

namespace Lower

/-- What holds of work as soon as it holds of its pieces, whatever is declared on the way. -/
structure Composes (P : Lower (List Expr) → Prop) : Prop where
  nothing : P (pure [])
  append : ∀ {x y : Lower (List Expr)}, P x → P y → P (do return (← x) ++ (← y))
  inBlock : ∀ {x : Lower (List Expr)}, P x → P (inBlock x)
  declares : ∀ {x y : Lower (List Expr)} (g : State → Scopes → Scopes), P x →
    (∀ s, y.run s = ((x.run s).1, { (x.run s).2 with scopes := g s (x.run s).2.scopes })) → P y

end Lower

namespace Task

variable {d : Declarations} {P : Lower (List Expr) → Prop}

/-- What a declaration leaves behind are the values of the names. -/
theorem run_define (names : List String) (declared : Option StaticType) (values : List Tree) :
    ∃ g : State → Scopes → Scopes, ∀ s, ((define names declared values).run d).run s =
      let after := (runAll d (takeAll .expression values)).run s
      (after.1, { after.2 with scopes := g s after.2.scopes }) := by
  have hdeclare := fun s : State => declareAll_scopes names
    ((List.range names.length).map fun i => declared.or ((Meaning.valueTypes
      ((runAll d (takeAll .expression values)).run s).2
      ((runAll d (takeAll .expression values)).run s).1 names.length)[i]?).join)
  choose g hg using hdeclare
  refine ⟨g, fun s => ?_⟩
  rw [run, Meaning.visitDeclaration, ← runAll_lower]
  simp only [run_bind, run_get, run_pure, hg]

theorem takeAll_of_taken (hP : Composes P) {role : Role} {ts : List Tree}
    (h : ∀ t ∈ ts, P (t.does d role)) : P (runAll d (takeAll role ts)) := by
  induction ts with
  | nil => exact hP.nothing
  | cons t ts ih =>
    rw [runAll_takeAll_cons]
    exact hP.append (h t List.mem_cons_self) (ih fun c hc => h c (List.mem_cons_of_mem _ hc))

mutual

/-- What composes holds of a piece of work if it holds of the nodes that are taken in it. -/
theorem run_of_taken (hP : Composes P) : ∀ task : Task,
    (∀ role c, (role, c) ∈ task.taken → P (c.does d role)) → P (task.run d)
  | take role t, h => by
    rw [run]
    exact h role t (by simp [taken])
  | declare bindings, _ => by
    obtain ⟨g, hg⟩ := declareAll_scopes (bindings.map (·.1)) (bindings.map (·.2))
    refine hP.declares (fun _ => g) hP.nothing fun s => ?_
    rw [run, run_bind, hg]
    rfl
  | define names declared values, h => by
    obtain ⟨g, hg⟩ := run_define (d := d) names declared values
    refine hP.declares g (takeAll_of_taken hP fun c hc => h .expression c ?_) hg
    rw [taken]
    exact List.mem_map_of_mem hc
  | block tasks, h => by
    rw [run]
    refine hP.inBlock (runAll_of_taken hP tasks fun role c hc => h role c ?_)
    rwa [taken]

/-- **What composes holds of some work if it holds of the nodes that are taken in it.** -/
theorem runAll_of_taken (hP : Composes P) : ∀ tasks : List Task,
    (∀ role c, (role, c) ∈ takenIn tasks → P (c.does d role)) → P (runAll d tasks)
  | [], _ => hP.nothing
  | task :: rest, h => by
    rw [runAll]
    have htask := run_of_taken hP task fun role c hc => h role c (by simp [takenIn, hc])
    have hrest := runAll_of_taken hP rest fun role c hc => h role c (by simp [takenIn, hc])
    exact hP.append htask hrest

end

end Task

namespace Lower

/-- Work that keeps the notes there are, writes none on nodes to come, and gives expressions with
new identities. -/
structure KeepsAt (s : State) (x : Lower (List Expr)) : Prop where
  extends_ : s.Extends (x.run s).2
  blank : (x.run s).2.Blank
  covers : ∀ e ∈ (x.run s).1, Window.Covers ⟨s.next, (x.run s).2⟩ e.id

def Keeps (x : Lower (List Expr)) : Prop := ∀ s, s.Blank → KeepsAt s x

variable {x y : Lower (List Expr)}

theorem Keeps.append (hx : Keeps x) (hy : Keeps y) : Keeps (do return (← x) ++ (← y)) := by
  intro s hs
  obtain ⟨hxs, hxb, hxc⟩ := hx s hs
  obtain ⟨hys, hyb, hyc⟩ := hy _ hxb
  refine ⟨hxs.trans hys, hyb, fun e he => ?_⟩
  rcases List.mem_append.1 he with he | he
  · obtain ⟨hlo, hhi⟩ := hxc e he
    exact ⟨hlo, Nat.lt_of_lt_of_le hhi hys.next_le⟩
  · obtain ⟨hlo, hhi⟩ := hyc e he
    exact ⟨Nat.le_trans hxs.next_le hlo, hhi⟩

/-- The names in sight play no part. -/
theorem composes_keeps : Composes Keeps where
  nothing s hs := ⟨.refl s, hs, fun e he => by cases he⟩
  append hx hy := hx.append hy
  inBlock h s hs := by
    obtain ⟨hext, hblank, hcovers⟩ := h { s with scopes := s.scopes.push } hs
    exact ⟨⟨hext.next_le, hext.note⟩, hblank, hcovers⟩
  declares g h hy s hs := by
    obtain ⟨hext, hblank, hcovers⟩ := h s hs
    refine ⟨?_, ?_, ?_⟩ <;> rw [hy]
    · exact ⟨hext.next_le, hext.note⟩
    · exact hblank
    · exact hcovers

end Lower

/-! ## Notes on expressions -/

end LogStyle.Go

namespace LogStyle.Expr

/-- The expressions right below a node. -/
def parts : Expr → List Expr
  | literal .. | ident .. => []
  | select _ _ operand _ => [operand]
  | call _ _ callee args => callee :: args
  | binary _ _ _ left right => [left, right]
  | paren _ _ inner => [inner]
  | other _ _ _ children => children

/-- The identities of a node: its own one, and that of a selected name. -/
def own : Expr → List NodeId
  | select id _ _ field => [id, field.id]
  | e => [e.id]

theorem nodes_eq (e : Expr) : e.nodes = e :: nodesOfAll e.parts := by
  cases e <;> simp [nodes, parts, nodesOfAll]

theorem mem_nodesOfAll {es : List Expr} {node : Expr} :
    node ∈ nodesOfAll es ↔ ∃ e ∈ es, node ∈ e.nodes := by
  induction es with
  | nil => simp [nodesOfAll]
  | cons e es ih => simp [nodesOfAll, ih]

theorem mem_nodesOfAll_append {es fs : List Expr} {node : Expr} :
    node ∈ nodesOfAll (es ++ fs) ↔ node ∈ nodesOfAll es ∨ node ∈ nodesOfAll fs := by
  simp only [mem_nodesOfAll, List.mem_append, or_and_right, exists_or]

mutual

/-- What keeps the parts of expressions in their places keeps all nodes in their places. -/
theorem nodes_map {f : Expr → Expr} (h : ∀ e, (f e).parts = e.parts.map f) :
    ∀ e : Expr, (f e).nodes = e.nodes.map f
  | literal .. => by
    rw [nodes_eq, h]
    rfl
  | ident .. => by
    rw [nodes_eq, h]
    rfl
  | select _ _ operand _ => by
    rw [nodes_eq, h]
    simp [parts, nodes, nodesOfAll, nodes_map h operand]
  | call _ _ callee args => by
    rw [nodes_eq, h]
    simp [parts, nodes, nodesOfAll, nodes_map h callee, nodesOfAll_map h args]
  | binary _ _ _ left right => by
    rw [nodes_eq, h]
    simp [parts, nodes, nodesOfAll, nodes_map h left, nodes_map h right]
  | paren _ _ inner => by
    rw [nodes_eq, h]
    simp [parts, nodes, nodesOfAll, nodes_map h inner]
  | other _ _ _ children => by
    rw [nodes_eq, h]
    simp [parts, nodes, nodesOfAll_map h children]

theorem nodesOfAll_map {f : Expr → Expr} (h : ∀ e, (f e).parts = e.parts.map f) :
    ∀ es : List Expr, nodesOfAll (es.map f) = (nodesOfAll es).map f
  | [] => rfl
  | e :: es => by
    rw [List.map_cons, nodesOfAll, nodesOfAll, nodes_map h e, nodesOfAll_map h es, List.map_append]

end

theorem callsOfAll_map {f : Expr → Expr} (h : ∀ e, (f e).parts = e.parts.map f)
    (hcall : ∀ e, (f e).isCall = e.isCall) (es : List Expr) :
    callsOfAll (es.map f) = (callsOfAll es).map f := by
  rw [callsOfAll, callsOfAll, nodesOfAll_map h, List.filter_map]
  simp [Function.comp_def, hcall]

end LogStyle.Expr

namespace LogStyle.Go

open Lower

/-- The type of an expression with a binary operator. -/
def Meaning.binaryType (op : Operator) (left right : Option StaticType) : Option StaticType :=
  match op with
  | .add => sumType left right
  | .other symbol => if comparisons.contains symbol then some (.other "bool") else left

/-- The notes on an expression, where some names are in sight and the notes on its parts are
there. -/
def Noted (d : Declarations) (scopes : Scopes) (s : State) : Expr → Prop
  | .literal id _ _ => s.note id = { type := some .string }
  | .ident id _ name => s.note id = Meaning.nameNote d scopes name
  | .paren id _ inner => s.note id = { type := (s.note inner.id).type }
  | .binary id _ op left right =>
    s.note id = { type := Meaning.binaryType op (s.note left.id).type (s.note right.id).type }
  | .select id _ operand field =>
    s.note id = Meaning.selectedNote (Meaning.selected? d s operand field.name) ∧
      s.note field.id = { use := Meaning.selectedUse? d s operand field.name }
  | .call .. | .other .. => True

section

variable {d : Declarations} {scopes : Scopes} {s u : State} {e operand : Expr}

theorem packageOf?_eq (h : u.note operand.id = s.note operand.id) :
    Meaning.packageOf? u.table operand = Meaning.packageOf? s.table operand := by
  cases operand with
  | ident id span name =>
    have huse : u.table.uses.get? id = s.table.uses.get? id := congrArg Note.use h
    simp only [Meaning.packageOf?, huse]
  | _ => rfl

theorem selected?_eq (h : u.note operand.id = s.note operand.id) (name : String) :
    Meaning.selected? d u operand name = Meaning.selected? d s operand name := by
  rw [Meaning.selected?, Meaning.selected?, packageOf?_eq h, h]

theorem selectedUse?_eq (h : u.note operand.id = s.note operand.id) (name : String) :
    Meaning.selectedUse? d u operand name = Meaning.selectedUse? d s operand name := by
  rw [Meaning.selectedUse?, Meaning.selectedUse?, packageOf?_eq h, selected?_eq h]

/-- Notes stay in force as long as those on the node and on its parts are kept. -/
theorem Noted.mono (h : Noted d scopes s e) (hown : ∀ i ∈ e.own, u.note i = s.note i)
    (hparts : ∀ p ∈ e.parts, u.note p.id = s.note p.id) : Noted d scopes u e := by
  cases e with
  | literal id | ident id =>
    have hid := hown id (by simp [Expr.own, Expr.id])
    exact hid.trans h
  | paren id _ inner =>
    have hid := hown id (by simp [Expr.own, Expr.id])
    have hinner := hparts inner (by simp [Expr.parts])
    simp only [Noted] at h ⊢
    rw [hid, hinner, h]
  | binary id _ op left right =>
    have hid := hown id (by simp [Expr.own, Expr.id])
    have hleft := hparts left (by simp [Expr.parts])
    have hright := hparts right (by simp [Expr.parts])
    simp only [Noted] at h ⊢
    rw [hid, hleft, hright, h]
  | select id _ operand field =>
    have hid := hown id (by simp [Expr.own])
    have hfield := hown field.id (by simp [Expr.own])
    have hoperand := hparts operand (by simp [Expr.parts])
    simp only [Noted] at h ⊢
    rw [hid, hfield, selected?_eq hoperand, selectedUse?_eq hoperand]
    exact h
  | call | other => trivial

end

/-- What holds when a node is finished: only the notes on it are written, it is made of the
expressions below it, and its notes are there. -/
structure Finished (d : Declarations) (id : NodeId) (es : List Expr) (s : State) (x : Lower Expr) :
    Prop where
  continues : State.Continues id s (x.run s).2
  blank : (x.run s).2.Blank
  id_eq : (x.run s).1.id = id
  own : ∀ i ∈ (x.run s).1.own, id ≤ i ∧ i < (x.run s).2.next
  parts : (x.run s).1.parts ⊆ es
  noted : Noted d s.scopes (x.run s).2 (x.run s).1

/-- A node that is to be finished: nothing is recorded about it yet, and the expressions below it
were made after it was given its identity. -/
structure Unfinished (id : NodeId) (es : List Expr) (s : State) : Prop where
  blank : s.Blank
  lt : id < s.next
  note : s.note id = {}
  covers : ∀ e ∈ es, id < e.id ∧ e.id < s.next

section

variable {d : Declarations} {id : NodeId} {es : List Expr} {s : State} {e : Expr} {x : Lower Unit}
  {note : Note}

theorem Unfinished.ne (h : Unfinished id es s) (he : e ∈ es) : e.id ≠ id :=
  Nat.ne_of_gt (h.covers e he).1

theorem Unfinished.finished (h : Unfinished id es s) (hx : Writes id s x note) (hid : e.own = [id])
    (heid : e.id = id) (hparts : e.parts ⊆ es)
    (hnoted : ∀ u : State, u.note id = note → (∀ p ∈ es, u.note p.id = s.note p.id) →
      Noted d s.scopes u e) :
    Finished d id es s (do x; return e) where
  continues := hx.marks.continues
  blank := hx.marks.blank h.blank h.lt
  id_eq := heid
  own i hi := by
    have hi' : i ∈ e.own := hi
    rw [hid, List.mem_singleton] at hi'
    subst hi'
    exact ⟨Nat.le_refl _, Nat.lt_of_lt_of_eq h.lt hx.marks.next.symm⟩
  parts := hparts
  noted := hnoted _ hx.note fun p hp => hx.marks.note _ (h.ne hp)

theorem Finished.typeOf_bind {e : Expr} {f : Option StaticType → Lower Expr}
    (h : Finished d id es s (f (s.note e.id).type)) : Finished d id es s (typeOf e >>= f) :=
  ⟨h.continues, h.blank, h.id_eq, h.own, h.parts, h.noted⟩

theorem Finished.get_bind {f : State → Lower Expr} (h : Finished d id es s (f s)) :
    Finished d id es s (get >>= f) :=
  ⟨h.continues, h.blank, h.id_eq, h.own, h.parts, h.noted⟩

/-- A node that is kept with the expressions below it. -/
theorem Unfinished.finished_other (h : Unfinished id es s) (span : Span) (kind : String)
    (type : Option StaticType) :
    Finished d id es s (do recordType? id type; return .other id span kind es) :=
  h.finished (writes_recordType? type h.note) rfl rfl (List.Subset.refl _) fun _ _ _ => trivial

/-- What is recorded about a call with some results: a single one is its type. -/
def Meaning.calledNote (results : List StaticType) : Note where
  type := match results with
    | [single] => some single
    | _ => none
  results := if results.isEmpty then none else some results

theorem writes_called (results : List StaticType) (h : s.note id = {}) :
    Writes id s (do
      match results with
      | [single] => recordType id single
      | _ => pure ()
      if !results.isEmpty then recordResults id results) (Meaning.calledNote results) := by
  rcases results with _ | ⟨single, _ | ⟨next, rest⟩⟩
  · exact writes_nothing h
  · have htype := writes_recordType single h
    exact htype.then (writes_recordResults [single] htype.note)
  · exact writes_recordResults (single :: next :: rest) h

theorem Unfinished.finished_call {callee : Expr} {args : List Expr}
    (h : Unfinished id (callee :: args) s) (span : Span) (results : List StaticType) :
    Finished d id (callee :: args) s (do
      match results with
      | [single] => recordType id single
      | _ => pure ()
      if !results.isEmpty then recordResults id results
      return .call id span callee args) := by
  have hfinished : Finished d id (callee :: args) s _ :=
    h.finished (e := .call id span callee args) (writes_called results h.note) rfl rfl
      (List.Subset.refl _) fun _ _ _ => trivial
  rcases results with _ | ⟨single, _ | ⟨next, rest⟩⟩ <;>
    exact ⟨hfinished.continues, hfinished.blank, hfinished.id_eq, hfinished.own, hfinished.parts,
      hfinished.noted⟩

theorem Unfinished.finished_select {operand : Expr} (h : Unfinished id [operand] s) (span : Span)
    (name : String) (place : Span) :
    Finished d id [operand] s (do
      let state ← get
      let fieldId ← Meaning.selectedName (Meaning.selectedUse? d state operand name)
      Meaning.recordSelected id (Meaning.selected? d state operand name)
      return .select id span operand ⟨fieldId, name, place⟩) := by
  refine .get_bind ?_
  generalize hselected : Meaning.selected? d s operand name = selected
  generalize huse : Meaning.selectedUse? d s operand name = use
  -- the selected name gets an identity of its own, with a note on it
  have hblank : s.bump.Blank := fun i hi => h.blank i (Nat.le_of_succ_le hi)
  have hfresh : s.bump.note s.next = {} := h.blank _ (Nat.le_refl _)
  have hname := Meaning.writes_recordUse? use hfresh
  generalize hu : ((Meaning.recordUse? s.next use).run s.bump).2 = u at hname
  have hrun : (Meaning.selectedName use).run s = (s.next, u) := by
    rw [← hu]
    rfl
  obtain ⟨hmarks, hnote⟩ := hname
  rw [hu] at hmarks hnote
  have hnext : u.next = s.next + 1 := hmarks.next
  have hkept : ∀ i, i < s.next → u.note i = s.note i := fun i hi => hmarks.note i (Nat.ne_of_lt hi)
  have hid : u.note id = {} := (hkept id h.lt).trans h.note
  -- then the note on the selector is written
  have hwrites := Meaning.writes_recordSelected selected hid
  have hstays : ∀ i, i < s.next → i ≠ id →
      ((Meaning.recordSelected id selected).run u).2.note i = s.note i :=
    fun i hi hne => (hwrites.marks.note i hne).trans (hkept i hi)
  have hoperand : ((Meaning.recordSelected id selected).run u).2.note operand.id =
      s.note operand.id :=
    hstays _ (h.covers operand List.mem_cons_self).2 (h.ne List.mem_cons_self)
  have hnext' : ((Meaning.recordSelected id selected).run u).2.next = s.next + 1 :=
    hwrites.marks.next.trans hnext
  have hle : s.next ≤ ((Meaning.recordSelected id selected).run u).2.next :=
    hnext' ▸ Nat.le_succ _
  have hlt := h.lt
  have hafter : ((do
      let fieldId ← Meaning.selectedName use
      Meaning.recordSelected id selected
      return .select id span operand ⟨fieldId, name, place⟩ : Lower Expr)).run s =
      (.select id span operand ⟨s.next, name, place⟩,
        ((Meaning.recordSelected id selected).run u).2) := by
    rw [run_bind, hrun]
    rfl
  constructor <;> rw [hafter]
  · exact ⟨hle, hstays⟩
  · exact hwrites.marks.blank (hmarks.blank hblank (Nat.lt_succ_self _)) (hnext ▸ Nat.lt_succ_of_lt hlt)
  · rfl
  · intro i hi
    simp only [Expr.own, List.mem_cons, List.not_mem_nil, or_false] at hi
    rcases hi with rfl | rfl
    · exact ⟨Nat.le_refl _, Nat.lt_of_lt_of_le hlt hle⟩
    · exact ⟨Nat.le_of_lt hlt, hnext' ▸ Nat.lt_succ_self _⟩
  · exact List.Subset.refl _
  · simp only [Noted]
    refine ⟨?_, ?_⟩
    · rw [hwrites.note, selected?_eq hoperand, hselected]
    · rw [hwrites.marks.note _ (Nat.ne_of_gt hlt), hnote, selectedUse?_eq hoperand, huse]

/-- **When a node is finished its notes are written.** -/
theorem Tree.finished (t : Tree) (h : Unfinished id es s) (form : Form) :
    Finished d id es s (t.finish d id form es) := by
  have hother : Finished d id es s (pure (.other id t.span t.kind.name es)) :=
    h.finished_other t.span t.kind.name none
  cases form with
  | literal =>
    refine h.finished (writes_recordType .string h.note) rfl rfl (List.nil_subset _) ?_
    intro u hnote _
    rw [Noted, hnote]
  | name =>
    refine h.finished (Meaning.writes_resolveIdentifier d t.text h.note) rfl rfl
      (List.nil_subset _) ?_
    intro u hnote _
    exact hnote
  | paren =>
    match es with
    | [inner] =>
      refine .typeOf_bind (h.finished (writes_recordType? _ h.note) rfl rfl (List.Subset.refl _) ?_)
      intro u hnote hparts
      rw [Noted, hnote, hparts inner List.mem_cons_self]
    | [] | _ :: _ :: _ => exact hother
  | binary operator =>
    match es with
    | [left, right] =>
      refine .typeOf_bind (.typeOf_bind ?_)
      refine h.finished (writes_recordType? _ h.note) rfl rfl (List.Subset.refl _) ?_
      intro u hnote hparts
      rw [Noted, hnote, hparts left (by simp), hparts right (by simp)]
      by_cases hadd : operator = "+" <;> simp [Meaning.binaryType, hadd]
    | [] | [_] | _ :: _ :: _ :: _ => exact hother
  | select member =>
    match es with
    | [operand] => exact h.finished_select t.span member.text member.span
    | [] | _ :: _ :: _ => exact hother
  | call =>
    match es with
    | callee :: args => exact .get_bind (h.finished_call t.span _)
    | [] => exact hother
  | typed type => exact h.finished_other t.span t.kind.name type
  | unary operator =>
    match es with
    | [] => exact h.finished_other t.span t.kind.name _
    | first :: rest => exact .typeOf_bind (h.finished_other t.span t.kind.name _)
  | other => exact hother

end

namespace Tree

variable {d : Declarations} {t : Tree} {s : State}

/-- What there is when a node is about to be finished: the expressions below it, and the state. -/
def prepared (d : Declarations) (t : Tree) (s : State) : List Expr × State :=
  (Task.runAll d (t.plan d).2).run s.bump

theorem run_lower (d : Declarations) (t : Tree) (s : State) : (t.meaning d).lower.run s =
    (t.finish d s.next (t.plan d).1 (t.prepared d s).1).run (t.prepared d s).2 := by
  rw [lower_eq]
  rfl

theorem blank_bump (hs : s.Blank) : s.bump.Blank := fun i hi => hs i (Nat.le_of_succ_le hi)

theorem unfinished_of_keeps (h : Keeps (Task.runAll d (t.plan d).2)) (hs : s.Blank) :
    Unfinished s.next (t.prepared d s).1 (t.prepared d s).2 := by
  obtain ⟨hext, hblank, hcovers⟩ := h s.bump (blank_bump hs)
  refine ⟨hblank, hext.next_le, ?_, hcovers⟩
  exact (hext.note s.next (Nat.lt_succ_self _)).trans (hs s.next (Nat.le_refl _))

theorem keepsAt_lower (h : Keeps (Task.runAll d (t.plan d).2)) (hs : s.Blank) :
    KeepsAt s (t.does d .expression) := by
  obtain ⟨hext, -, -⟩ := h s.bump (blank_bump hs)
  have hfinished := t.finished (d := d) (unfinished_of_keeps h hs) (t.plan d).1
  have hcontinues := hext.continues hfinished.continues
  have hrun : (t.does d .expression).run s =
      ([((t.meaning d).lower.run s).1], ((t.meaning d).lower.run s).2) := rfl
  rw [run_lower] at hrun
  constructor <;> rw [hrun]
  · refine ⟨Nat.le_of_succ_le hcontinues.next_le, fun i hi => ?_⟩
    exact hcontinues.note i (Nat.lt_succ_of_lt hi) (Nat.ne_of_lt hi)
  · exact hfinished.blank
  · intro e he
    rw [List.mem_singleton.1 he, hfinished.id_eq]
    exact ⟨Nat.le_refl _, hcontinues.next_le⟩

/-- **Every node keeps the notes that are there**, in whatever role it is taken. -/
theorem keeps_does (d : Declarations) : ∀ role (t : Tree), Keeps (t.does d role) := by
  refine does_induction d fun role t ih => ?_
  have htasks := Task.runAll_of_taken composes_keeps (t.tasks d role) ih
  cases role with
  | statement =>
    rw [does, visit_eq]
    exact htasks
  | expression => exact fun s hs => keepsAt_lower htasks hs

theorem keeps_task (d : Declarations) (task : Task) : Keeps (task.run d) :=
  Task.run_of_taken composes_keeps task fun role c _ => keeps_does d role c

theorem keeps_tasks (d : Declarations) (tasks : List Task) : Keeps (Task.runAll d tasks) :=
  Task.runAll_of_taken composes_keeps tasks fun role c _ => keeps_does d role c

/-- What is made of a node as an expression. -/
theorem finished_lower (d : Declarations) (t : Tree) (hs : s.Blank) :
    Finished d s.next (t.prepared d s).1 (t.prepared d s).2
      (t.finish d s.next (t.plan d).1 (t.prepared d s).1) :=
  t.finished (unfinished_of_keeps (keeps_tasks d _) hs) _

/-- The expression that a node becomes in a form. A selected name has an identity of its own. -/
def made (t : Tree) (id fieldId : NodeId) : Form → List Expr → Expr
  | .literal, _ => .literal id t.span t.text
  | .name, _ => .ident id t.span t.text
  | .paren, [inner] => .paren id t.span inner
  | .binary operator, [left, right] =>
    .binary id t.span (if operator = "+" then .add else .other operator) left right
  | .select member, [operand] => .select id t.span operand ⟨fieldId, member.text, member.span⟩
  | .call, callee :: args => .call id t.span callee args
  | _, es => .other id t.span t.kind.name es

/-- The notes that are written in the end have no part in what a node becomes. -/
theorem run_finish (t : Tree) (id : NodeId) (form : Form) (es : List Expr) (s : State) :
    ((t.finish d id form es).run s).1 = t.made id s.next form es := by
  cases form with
  | call => match es with
    | [] => rfl
    | callee :: args =>
      unfold finish
      rw [run_bind, run_get]
      rcases Meaning.callResults d s callee with _ | ⟨single, _ | ⟨next, rest⟩⟩ <;> rfl
  | paren | select => match es with
    | [] | [_] | _ :: _ :: _ => rfl
  | binary => match es with
    | [] | [_] | [_, _] | _ :: _ :: _ :: _ => rfl
  | unary => match es with
    | [] | _ :: _ => rfl
  | literal | name | typed | other => rfl

section

variable {id fieldId i : NodeId} {form : Form} {es : List Expr} {span : Span}

/-- Only a name becomes an identifier. -/
theorem of_made_ident {name : String} (h : t.made id fieldId form es = .ident i span name) :
    form = .name ∧ t.text = name := by
  unfold made at h
  split at h <;> cases h
  exact ⟨rfl, rfl⟩

/-- Only a call becomes a call. -/
theorem of_made_call {callee : Expr} {args : List Expr}
    (h : t.made id fieldId form es = .call i span callee args) : form = .call ∧ es = callee :: args := by
  unfold made at h
  split at h <;> cases h
  exact ⟨rfl, rfl⟩

end

/-- Which nodes become names and calls. -/
theorem kind_of_plan (d : Declarations) (t : Tree) :
    ((t.plan d).1 = .name → t.kind = .identifier) ∧
      ((t.plan d).1 = .call → t.kind = .callExpression) := by
  unfold plan
  dsimp only
  constructor <;> intro h <;> split at h
  all_goals first
    | assumption
    | cases h
    | split at h <;> cases h

/-- What is done for a node that becomes a call. -/
theorem of_plan_call (h : (t.plan d).1 = .call) :
    t.kind = .callExpression ∧ t.isApplied = true ∧ ∃ function, (t.plan d).2 =
      Task.takeAll .expression (function :: ((t.child? .arguments).map operands).getD []) := by
  have hkind := (kind_of_plan d t).2 h
  simp only [plan, hkind] at h ⊢
  cases hfunction : t.child? .function with
  | none =>
    rw [hfunction] at h
    cases h
  | some function => exact ⟨trivial, by simp [isApplied, hkind, hfunction], function, rfl⟩

/-- An identifier is made of a name, where it stands. -/
theorem of_lower_ident {id : NodeId} {span : Span} {name : String}
    (h : ((t.meaning d).lower.run s).1 = .ident id span name) :
    t.kind = .identifier ∧ t.text = name ∧ (t.prepared d s).2.scopes = s.scopes := by
  rw [run_lower, run_finish] at h
  obtain ⟨hform, hname⟩ := of_made_ident h
  have hkind := (kind_of_plan d t).1 hform
  refine ⟨hkind, hname, ?_⟩
  simp only [prepared, plan, hkind]
  rfl

end Tree

end LogStyle.Go
