import LogStyle.Go.Lowering
import LogStyle.Proofs.Skeleton

/-!
# What lowering records

Lowering gives every node an identity and records notes under it. Two lowerings that go through the
same blocks may hand out different identities; what they say about corresponding nodes is the same.

* `State.note`: all that is recorded about a node.
* `State.Extends`: a later state keeps the notes of an earlier one.
* `Window`: the nodes from some identity on, with what a state says about them.
* `Lower.Sim`: two pieces of work that end in corresponding states with related results.
* `Lower.SimAt.bind`: **work that is done one after the other corresponds if its parts do.**
-/

namespace LogStyle.Go

/-- All that is recorded about a node. -/
structure Note where
  use : Option Referent := none
  selection : Option Referent := none
  type : Option StaticType := none
  results : Option (List StaticType) := none

namespace State

variable {s t u : State} {i : NodeId}

def note (s : State) (id : NodeId) : Note :=
  ⟨s.table.uses.get? id, s.table.selections.get? id, s.table.types.get? id, s.results.get? id⟩

/-- Nothing is recorded about nodes that are still to come. -/
def Blank (s : State) : Prop := ∀ i, s.next ≤ i → s.note i = {}

/-- A later state, which keeps the notes of an earlier one. -/
structure Extends (s t : State) : Prop where
  next_le : s.next ≤ t.next
  note : ∀ i, i < s.next → t.note i = s.note i

theorem Extends.refl (s : State) : Extends s s := ⟨Nat.le_refl _, fun _ _ => rfl⟩

theorem Extends.trans (h : Extends s t) (h' : Extends t u) : Extends s u where
  next_le := Nat.le_trans h.next_le h'.next_le
  note i hi := (h'.note i (Nat.lt_of_lt_of_le hi h.next_le)).trans (h.note i hi)

/-- A state that has handed out one more identity. -/
def bump (s : State) : State := { s with next := s.next + 1 }

/-- States that differ at most in the note about one node. -/
structure Marks (id : NodeId) (s t : State) : Prop where
  next : t.next = s.next
  scopes : t.scopes = s.scopes
  note : ∀ i, i ≠ id → t.note i = s.note i

/-- A later state, which keeps the notes of an earlier one except for those on one node. -/
structure Continues (id : NodeId) (s t : State) : Prop where
  next_le : s.next ≤ t.next
  note : ∀ i, i < s.next → i ≠ id → t.note i = s.note i

theorem Extends.continues {id : NodeId} (h : Extends s t) (h' : Continues id t u) :
    Continues id s u where
  next_le := Nat.le_trans h.next_le h'.next_le
  note i hi hne := (h'.note i (Nat.lt_of_lt_of_le hi h.next_le) hne).trans (h.note i hi)

theorem Marks.continues {id : NodeId} (h : Marks id s t) : Continues id s t :=
  ⟨Nat.le_of_eq h.next.symm, fun i _ hne => h.note i hne⟩

theorem Marks.blank {id : NodeId} (h : Marks id s t) (hs : s.Blank) (hid : id < s.next) :
    t.Blank := by
  intro i hi
  rw [h.next] at hi
  rw [h.note i (Nat.ne_of_gt (Nat.lt_of_lt_of_le hid hi)), hs i hi]

/-- Both states see the same names, and know nothing about nodes to come. -/
structure Paired (s t : State) : Prop where
  scopes : s.scopes = t.scopes
  left : s.Blank
  right : t.Blank

theorem Paired.bump (h : Paired s t) : Paired s.bump t.bump where
  scopes := h.scopes
  left i hi := h.left i (Nat.le_of_succ_le hi)
  right i hi := h.right i (Nat.le_of_succ_le hi)

end State

/-! ## Windows -/

/-- The nodes from some identity on, with what a state says about them. -/
structure Window where
  start : NodeId
  state : State

namespace Window

variable {w v x : Window} {i : NodeId}

def Covers (w : Window) (i : NodeId) : Prop := w.start ≤ i ∧ i < w.state.next

/-- All that one window shows is shown by another one as well. -/
def Within (w v : Window) : Prop :=
  ∀ i, w.Covers i → v.Covers i ∧ v.state.note i = w.state.note i

theorem Within.trans (h : w.Within v) (h' : v.Within x) : w.Within x := by
  intro i hi
  obtain ⟨hv, hnote⟩ := h i hi
  obtain ⟨hx, hnote'⟩ := h' i hv
  exact ⟨hx, hnote'.trans hnote⟩

theorem within_of_extends {s t : State} {lo lo' : NodeId} (h : s.Extends t) (hlo : lo' ≤ lo) :
    Within ⟨lo, s⟩ ⟨lo', t⟩ := by
  rintro i ⟨hi, hi'⟩
  exact ⟨⟨Nat.le_trans hlo hi, Nat.lt_of_lt_of_le hi' h.next_le⟩, h.note i hi'⟩

end Window

/-- Two nodes with the same notes. -/
structure Agree (w w' : Window) (i i' : NodeId) : Prop where
  left : w.Covers i
  right : w'.Covers i'
  note : w.state.note i = w'.state.note i'

theorem Agree.mono {w w' v v' : Window} {i i' : NodeId} (h : Agree w w' i i') (hw : w.Within v)
    (hw' : w'.Within v') : Agree v v' i i' where
  left := (hw i h.left).1
  right := (hw' i' h.right).1
  note := by rw [(hw i h.left).2, (hw' i' h.right).2, h.note]

/-! ## Corresponding work -/

namespace Lower

variable {α α' β β' : Type} {s s' : State} {Q : Window → Window → α → α' → Prop}
  {R : Window → Window → β → β' → Prop}

@[simp] theorem run_bind (x : Lower α) (f : α → Lower β) (s : State) :
    (x >>= f).run s = (f (x.run s).1).run (x.run s).2 := rfl

@[simp] theorem run_pure (a : α) (s : State) : (pure a : Lower α).run s = (a, s) := rfl

@[simp] theorem run_get (s : State) : (get : Lower State).run s = (s, s) := rfl

@[simp] theorem run_fresh (s : State) : fresh.run s = (s.next, s.bump) := rfl

@[simp] theorem run_typeOf (e : Expr) (s : State) :
    (typeOf e).run s = ((s.note e.id).type, s) := rfl

/-- A relation that holds in larger windows as well. -/
def Stable (Q : Window → Window → α → α' → Prop) : Prop :=
  ∀ ⦃w w' v v' a a'⦄, w.Within v → w'.Within v' → Q w w' a a' → Q v v' a a'

/-- Work from two given states that ends in corresponding states with related results. -/
structure SimAt (s s' : State) (x : Lower α) (x' : Lower α')
    (Q : Window → Window → α → α' → Prop) : Prop where
  paired : State.Paired (x.run s).2 (x'.run s').2
  left : s.Extends (x.run s).2
  right : s'.Extends (x'.run s').2
  related : Q ⟨s.next, (x.run s).2⟩ ⟨s'.next, (x'.run s').2⟩ (x.run s).1 (x'.run s').1

/-- Work that corresponds from all corresponding states. -/
def Sim (x : Lower α) (x' : Lower α') (Q : Window → Window → α → α' → Prop) : Prop :=
  ∀ s s', State.Paired s s' → SimAt s s' x x' Q

theorem Sim.imp {x : Lower α} {x' : Lower α'} {Q' : Window → Window → α → α' → Prop}
    (h : Sim x x' Q) (hQ : ∀ w w' a a', Q w w' a a' → Q' w w' a a') : Sim x x' Q' := by
  intro s s' hp
  obtain ⟨hp', hl, hr, hrel⟩ := h s s' hp
  exact ⟨hp', hl, hr, hQ _ _ _ _ hrel⟩

theorem SimAt.pure {a : α} {a' : α'} (h : State.Paired s s') (hQ : Q ⟨s.next, s⟩ ⟨s'.next, s'⟩ a a') :
    SimAt s s' (Pure.pure a) (Pure.pure a') Q :=
  ⟨h, .refl s, .refl s', hQ⟩

/-- **Work that is done one after the other corresponds if its parts do.** The relation of the first
results still holds in the end. -/
theorem SimAt.bind {x : Lower α} {x' : Lower α'} {f : α → Lower β} {f' : α' → Lower β'}
    (hx : SimAt s s' x x' Q) (hQ : Stable Q)
    (hf : ∀ lo lo' t t' a a', State.Paired t t' → Q ⟨lo, t⟩ ⟨lo', t'⟩ a a' →
      SimAt t t' (f a) (f' a') fun v v' b b' =>
        ∀ w w', v.Within w → v'.Within w' → Q w w' a a' → R w w' b b') :
    SimAt s s' (x >>= f) (x' >>= f') R := by
  obtain ⟨hp, hl, hr, hrel⟩ := hx
  obtain ⟨hp', hl', hr', hrel'⟩ := hf _ _ _ _ _ _ hp hrel
  -- what is known of the first results is carried to the end of the second part
  refine ⟨hp', hl.trans hl', hr.trans hr', hrel' _ _ ?_ ?_ (hQ ?_ ?_ hrel)⟩
  · exact Window.within_of_extends (.refl _) hl.next_le
  · exact Window.within_of_extends (.refl _) hr.next_le
  · exact Window.within_of_extends hl' (Nat.le_refl _)
  · exact Window.within_of_extends hr' (Nat.le_refl _)

/-- Work that looks at the state. -/
theorem SimAt.get_bind {f : State → Lower β} {f' : State → Lower β'}
    (h : SimAt s s' (f s) (f' s') R) : SimAt s s' (get >>= f) (get >>= f') R :=
  ⟨h.paired, h.left, h.right, h.related⟩

/-- Work that only changes the names in sight. -/
theorem SimAt.modify_bind {f : PUnit → Lower β} {f' : PUnit → Lower β'} {g : Scopes → Scopes}
    (h : State.Paired s s')
    (hf : ∀ t t', State.Paired t t' → SimAt t t' (f ⟨⟩) (f' ⟨⟩) R) :
    SimAt s s' ((modify fun s => { s with scopes := g s.scopes }) >>= f)
      ((modify fun s => { s with scopes := g s.scopes }) >>= f') R := by
  have hpaired : State.Paired { s with scopes := g s.scopes } { s' with scopes := g s'.scopes } :=
    ⟨congrArg g h.scopes, h.left, h.right⟩
  obtain ⟨hp, hl, hr, hrel⟩ := hf _ _ hpaired
  exact ⟨hp, ⟨hl.next_le, hl.note⟩, ⟨hr.next_le, hr.note⟩, hrel⟩

/-! ## One node after another -/

variable {P : Window → Window → β → β' → Prop} {id id' : NodeId}

/-- Two identities that were just handed out, and the states some time later. -/
structure Begun (id id' : NodeId) (s s' : State) : Prop where
  paired : State.Paired s s'
  left : id < s.next
  right : id' < s'.next
  blank : s.note id = {}
  blank' : s'.note id' = {}

theorem begun_fresh (h : State.Paired s s') : Begun s.next s'.next s.bump s'.bump where
  paired := h.bump
  left := Nat.lt_succ_self _
  right := Nat.lt_succ_self _
  blank := h.left _ (Nat.le_refl _)
  blank' := h.right _ (Nat.le_refl _)

theorem Begun.later {t t' : State} (h : Begun id id' s s') (hp : State.Paired t t') (hl : s.Extends t)
    (hr : s'.Extends t') : Begun id id' t t' where
  paired := hp
  left := Nat.lt_of_lt_of_le h.left hl.next_le
  right := Nat.lt_of_lt_of_le h.right hr.next_le
  blank := (hl.note id h.left).trans h.blank
  blank' := (hr.note id' h.right).trans h.blank'

/-- The rest of the work on two nodes. Other nodes are treated on the way, and the notes on the nodes
themselves are written. -/
structure Node (id id' : NodeId) (s s' : State) (x : Lower β) (x' : Lower β')
    (P : Window → Window → β → β' → Prop) : Prop where
  paired : State.Paired (x.run s).2 (x'.run s').2
  left : State.Continues id s (x.run s).2
  right : State.Continues id' s' (x'.run s').2
  related : P ⟨id, (x.run s).2⟩ ⟨id', (x'.run s').2⟩ (x.run s).1 (x'.run s').1

theorem Node.imp {x : Lower β} {x' : Lower β'} {P' : Window → Window → β → β' → Prop}
    (h : Node id id' s s' x x' P) (hP : ∀ w w' e e', P w w' e e' → P' w w' e e') :
    Node id id' s s' x x' P' :=
  ⟨h.paired, h.left, h.right, hP _ _ _ _ h.related⟩

/-- A node whose identity is handed out first. -/
theorem Node.simAt {x : NodeId → Lower β} {x' : NodeId → Lower β'}
    (h : Node s.next s'.next s.bump s'.bump (x s.next) (x' s'.next) P) :
    SimAt s s' (fresh >>= x) (fresh >>= x') P := by
  -- the identity itself lies behind everything that was there
  have hside : ∀ {s u : State}, State.Continues s.next s.bump u → s.Extends u := by
    intro s u hu
    exact ⟨Nat.le_of_lt hu.next_le, fun i hi => hu.note i (Nat.lt_succ_of_lt hi) (Nat.ne_of_lt hi)⟩
  exact ⟨h.paired, hside h.left, hside h.right, h.related⟩

/-- Something below the nodes is treated. -/
theorem Node.bind {x : Lower α} {x' : Lower α'} {f : α → Lower β} {f' : α' → Lower β'}
    (h : Begun id id' s s') (hx : SimAt s s' x x' Q) (hQ : Stable Q)
    (hf : ∀ lo lo' t t' a a', Begun id id' t t' → s.Extends t → s'.Extends t' →
      Q ⟨lo, t⟩ ⟨lo', t'⟩ a a' →
      Node id id' t t' (f a) (f' a') fun w w' e e' => Q w w' a a' → P w w' e e') :
    Node id id' s s' (x >>= f) (x' >>= f') P := by
  -- what lies behind the node stays in sight while its note is written
  have hside : ∀ {id : NodeId} {s t u : State}, id < s.next → State.Continues id t u →
      Window.Within ⟨s.next, t⟩ ⟨id, u⟩ := by
    rintro id s t u hid hu i ⟨hi, hi'⟩
    have hlt : id < i := Nat.lt_of_lt_of_le hid hi
    exact ⟨⟨Nat.le_of_lt hlt, Nat.lt_of_lt_of_le hi' hu.next_le⟩, hu.note i hi' (Nat.ne_of_gt hlt)⟩
  obtain ⟨hp, hl, hr, hrel⟩ := hx
  obtain ⟨hp', hl', hr', hP⟩ := hf _ _ _ _ _ _ (h.later hp hl hr) hl hr hrel
  exact ⟨hp', hl.continues hl', hr.continues hr', hP (hQ (hside h.left hl') (hside h.right hr') hrel)⟩

/-- Something is looked up. -/
theorem Node.get_bind {f : State → Lower β} {f' : State → Lower β'} (h : Node id id' s s' (f s) (f' s') P) :
    Node id id' s s' (get >>= f) (get >>= f') P :=
  ⟨h.paired, h.left, h.right, h.related⟩

theorem Node.typeOf_bind {e e' : Expr} {f : Option StaticType → Lower β}
    {f' : Option StaticType → Lower β'}
    (h : Node id id' s s' (f (s.note e.id).type) (f' (s'.note e'.id).type) P) :
    Node id id' s s' (typeOf e >>= f) (typeOf e' >>= f') P :=
  ⟨h.paired, h.left, h.right, h.related⟩

/-- Work that writes the note on one node. -/
structure Writes (id : NodeId) (s : State) (x : Lower Unit) (note : Note) : Prop where
  marks : State.Marks id s (x.run s).2
  note : (x.run s).2.note id = note

/-- The notes on the nodes are written, and the expressions are given back. -/
theorem Node.pure {x x' : Lower Unit} {note : Note} {e : β} {e' : β'} (h : Begun id id' s s')
    (hx : Writes id s x note) (hx' : Writes id' s' x' note)
    (hP : ∀ w w', Agree w w' id id' → P w w' e e') :
    Node id id' s s' (x >>= fun _ => Pure.pure e) (x' >>= fun _ => Pure.pure e') P := by
  refine ⟨⟨?_, ?_, ?_⟩, hx.marks.continues, hx'.marks.continues, hP _ _ ⟨⟨?_, ?_⟩, ⟨?_, ?_⟩, ?_⟩⟩
  · exact hx.marks.scopes.trans (h.paired.scopes.trans hx'.marks.scopes.symm)
  · exact hx.marks.blank h.paired.left h.left
  · exact hx'.marks.blank h.paired.right h.right
  · exact Nat.le_refl _
  · exact Nat.lt_of_lt_of_eq h.left hx.marks.next.symm
  · exact Nat.le_refl _
  · exact Nat.lt_of_lt_of_eq h.right hx'.marks.next.symm
  · exact hx.note.trans hx'.note.symm

theorem Writes.get_bind {f : State → Lower Unit} {note : Note} (h : Writes id s (f s) note) :
    Writes id s (get >>= f) note :=
  ⟨h.marks, h.note⟩

theorem writes_nothing (h : s.note id = {}) : Writes id s (Pure.pure ()) {} :=
  ⟨⟨rfl, rfl, fun _ _ => rfl⟩, h⟩

/-- No notes are written. -/
theorem Node.blank {e : β} {e' : β'} (h : Begun id id' s s')
    (hP : ∀ w w', Agree w w' id id' → P w w' e e') :
    Node id id' s s' (Pure.pure e) (Pure.pure e') P := by
  have hnode := Node.pure h (writes_nothing h.blank) (writes_nothing h.blank') hP
  exact hnode

/-- Notes are written one after the other. -/
theorem Writes.then {x y : Lower Unit} {note note' : Note} (hx : Writes id s x note)
    (hy : Writes id (x.run s).2 y note') : Writes id s (x >>= fun _ => y) note' where
  marks :=
    { next := hy.marks.next.trans hx.marks.next
      scopes := hy.marks.scopes.trans hx.marks.scopes
      note := fun i hi => (hy.marks.note i hi).trans (hx.marks.note i hi) }
  note := hy.note

theorem writes_modify {f : State → State} {note : Note} (hnext : (f s).next = s.next)
    (hscopes : (f s).scopes = s.scopes)
    (hnote : ∀ i, (f s).note i = if i = id then note else s.note i) :
    Writes id s (modify f) note :=
  ⟨⟨hnext, hscopes, fun i hi => (hnote i).trans (if_neg hi)⟩, (hnote id).trans (if_pos rfl)⟩

theorem writes_recordUse {note : Note} (r : Referent) (h : s.note id = note) :
    Writes id s (recordUse id r) { note with use := some r } := by
  subst h
  refine writes_modify rfl rfl fun i => ?_
  by_cases hi : i = id <;> simp [State.note, TypeTable.recordUse, hi]

theorem writes_recordSelection {note : Note} (r : Referent) (h : s.note id = note) :
    Writes id s (recordSelection id r) { note with selection := some r } := by
  subst h
  refine writes_modify rfl rfl fun i => ?_
  by_cases hi : i = id <;> simp [State.note, TypeTable.recordSelection, hi]

theorem writes_recordType {note : Note} (type : StaticType) (h : s.note id = note) :
    Writes id s (recordType id type) { note with type := some type } := by
  subst h
  refine writes_modify rfl rfl fun i => ?_
  by_cases hi : i = id <;> simp [State.note, TypeTable.recordType, hi]

theorem writes_recordResults {note : Note} (types : List StaticType) (h : s.note id = note) :
    Writes id s (recordResults id types) { note with results := some types } := by
  subst h
  refine writes_modify rfl rfl fun i => ?_
  by_cases hi : i = id <;> simp [State.note, hi]

theorem writes_recordType? (type : Option StaticType) (h : s.note id = {}) :
    Writes id s (recordType? id type) { type := type } := by
  cases type with
  | none => exact writes_nothing h
  | some type => exact writes_recordType type h

end Lower

end LogStyle.Go
