import LogStyle.Proofs.Annotations
import LogStyle.Proofs.Masking

/-!
# Where identities begin

Identities are handed out one after the other, and notes are written under them. Work that begins
later, when identities have been handed out and notes have been written for other nodes, hands out
later identities. Apart from that it does what it does at the beginning.

* `Expr.shifted`: an expression with later identities.
* `State.above`: the state that is reached from another one by work that ends in a given state if it
  begins with nothing.
* `Tree.faithful_above`: **on top of a state every node does what it does at the beginning.**
* `Engine.reports`: where some expressions begin, each with the violations that are found in it.
* `Tree.found`: what is found in some statements if they are the first to be visited.
* `Tree.reports_runAll`: **what is found in statements depends on the names in sight**, and not on what
  was done before or is done afterwards.
-/

namespace LogStyle

variable {ρ : Type} [MessageRule ρ]

/-! ## Later identities -/

namespace Expr

mutual

/-- An expression with identities that come later by some number. -/
def shifted (n : Nat) : Expr → Expr
  | literal id span raw => literal (n + id) span raw
  | ident id span name => ident (n + id) span name
  | select id span operand field =>
    select (n + id) span (operand.shifted n) { field with id := n + field.id }
  | call id span callee args => call (n + id) span (callee.shifted n) (shiftedAll n args)
  | binary id span op left right => binary (n + id) span op (left.shifted n) (right.shifted n)
  | paren id span inner => paren (n + id) span (inner.shifted n)
  | other id span kind children => other (n + id) span kind (shiftedAll n children)

def shiftedAll (n : Nat) : List Expr → List Expr
  | [] => []
  | e :: rest => e.shifted n :: shiftedAll n rest

end

theorem shiftedAll_eq (n : Nat) (es : List Expr) : shiftedAll n es = es.map (shifted n) := by
  induction es with
  | nil => rfl
  | cons e es ih => rw [shiftedAll, ih, List.map_cons]

@[simp] theorem id_shifted (n : Nat) (e : Expr) : (e.shifted n).id = n + e.id := by
  cases e <;> rfl

@[simp] theorem span_shifted (n : Nat) (e : Expr) : (e.shifted n).span = e.span := by
  cases e <;> rfl

@[simp] theorem isCall_shifted (n : Nat) (e : Expr) : (e.shifted n).isCall = e.isCall := by
  cases e <;> rfl

theorem parts_shifted (n : Nat) (e : Expr) : (e.shifted n).parts = e.parts.map (shifted n) := by
  cases e <;> simp [shifted, parts, shiftedAll_eq]

theorem calls_shifted (n : Nat) (e : Expr) : (e.shifted n).calls = e.calls.map (shifted n) := by
  have hcalls := callsOfAll_map (parts_shifted n) (isCall_shifted n) [e]
  simpa only [List.map_cons, List.map_nil, callsOfAll_cons, callsOfAll_nil, List.append_nil]
    using hcalls

theorem stripParens_shifted (n : Nat) (e : Expr) :
    (e.shifted n).stripParens = e.stripParens.shifted n := by
  induction e using stripParens.induct with
  | case1 id span inner ih => rw [shifted, stripParens, stripParens, ih]
  | case2 e h =>
    cases e with
    | paren id span inner => exact absurd rfl (h id span inner)
    | _ => rfl

end Expr

theorem Message.fragments_shifted (n : Nat) (e : Expr) :
    Message.fragments (e.shifted n) = Message.fragments e := by
  induction e using Message.fragments.induct with
  | case1 id span raw => rfl
  | case2 id span left right hleft hright => simp [Expr.shifted, Message.fragments, hleft, hright]
  | case3 id span inner ih => simp [Expr.shifted, Message.fragments, ih]
  | case4 e hliteral hadd hparen =>
    cases e with
    | literal id span raw => exact absurd rfl (hliteral id span raw)
    | binary id span op left right =>
      cases op with
      | add => exact absurd rfl (hadd id span left right)
      | other => rfl
    | paren id span inner => exact absurd rfl (hparen id span inner)
    | _ => rfl

theorem Engine.checkMessage_shifted (engine : Engine ρ) (path : String) (n : Nat) (message : Expr) :
    engine.checkMessage path (message.shifted n) = engine.checkMessage path message := by
  have hreplaceable : Message.isReplaceable (message.shifted n) = Message.isReplaceable message := by
    rw [Message.isReplaceable, Message.isReplaceable, Expr.isLiteral, Expr.stripParens_shifted,
      Expr.isLiteral]
    cases message.stripParens <;> rfl
  unfold checkMessage
  rw [Message.fragments_shifted]
  refine List.flatMap_congr fun fragment _ => ?_
  simp only [checkFragment, hreplaceable, Violation.ofFinding, Expr.span_shifted]

/-- Bindings on top of others, under keys that come later by some number. -/
def Bindings.above {α : Type} (b : Bindings NodeId α) (n : Nat) (base : Bindings NodeId α) :
    Bindings NodeId α :=
  ⟨b.entries.map (fun entry => (n + entry.1, entry.2)) ++ base.entries⟩

/-- Where nothing is bound from some key on, there is room for other bindings. -/
theorem Bindings.get?_above {α : Type} {n : Nat} {base : Bindings NodeId α}
    (h : ∀ i, n ≤ i → base.get? i = none) (b : Bindings NodeId α) (i : NodeId) :
    (b.above n base).get? (n + i) = b.get? i := by
  obtain ⟨entries⟩ := b
  unfold get? above
  dsimp only
  induction entries with
  | nil => exact h (n + i) (Nat.le_add_right n i)
  | cons entry entries ih =>
    rw [List.map_cons, List.cons_append, find?, find?, ih]
    simp only [Nat.add_left_cancel_iff]

namespace Go

open Lower

/-! ## On top of a state -/

namespace State

/-- The state that work reaches from some base, if it reaches a given state from nothing. -/
def above (s base : State) : State where
  next := base.next + s.next
  table :=
    { uses := s.table.uses.above base.next base.table.uses
      selections := s.table.selections.above base.next base.table.selections
      types := s.table.types.above base.next base.table.types }
  results := s.results.above base.next base.results
  scopes := s.scopes

variable {base : State} (h : base.Blank) (s : State)
include h

theorem note_above (i : NodeId) : (s.above base).note (base.next + i) = s.note i := by
  have huse : ∀ i, base.next ≤ i → base.table.uses.get? i = none := fun i hi =>
    congrArg Note.use (h i hi)
  have hselection : ∀ i, base.next ≤ i → base.table.selections.get? i = none := fun i hi =>
    congrArg Note.selection (h i hi)
  have htype : ∀ i, base.next ≤ i → base.table.types.get? i = none := fun i hi =>
    congrArg Note.type (h i hi)
  have hresults : ∀ i, base.next ≤ i → base.results.get? i = none := fun i hi =>
    congrArg Note.results (h i hi)
  simp only [note, above, Bindings.get?_above huse, Bindings.get?_above hselection,
    Bindings.get?_above htype, Bindings.get?_above hresults]

theorem use_above (i : NodeId) :
    (s.above base).table.uses.get? (base.next + i) = s.table.uses.get? i :=
  congrArg Note.use (note_above h s i)

theorem selection_above (i : NodeId) :
    (s.above base).table.selections.get? (base.next + i) = s.table.selections.get? i :=
  congrArg Note.selection (note_above h s i)

theorem type_above (i : NodeId) :
    (s.above base).table.types.get? (base.next + i) = s.table.types.get? i :=
  congrArg Note.type (note_above h s i)

theorem results_above (i : NodeId) :
    (s.above base).results.get? (base.next + i) = s.results.get? i :=
  congrArg Note.results (note_above h s i)

end State

/-- Work on top of some base. The expressions that are left behind have later identities. -/
def Translation.above (base : State) : Translation where
  number i := base.next + i
  state s := s.above base
  before := Expr.shifted base.next

namespace Meaning

variable {base : State} (h : base.Blank) (d : Declarations) (s : State)
include h

theorem packageOf?_above (operand : Expr) :
    packageOf? (s.above base).table (operand.shifted base.next) = packageOf? s.table operand := by
  cases operand with
  | ident id span name => simp only [Expr.shifted, packageOf?, State.use_above h]
  | _ => rfl

theorem selected?_above (operand : Expr) (name : String) :
    selected? d (s.above base) (operand.shifted base.next) name = selected? d s operand name := by
  rw [selected?, selected?, packageOf?_above h, Expr.id_shifted, State.note_above h]

theorem selectedUse?_above (operand : Expr) (name : String) :
    selectedUse? d (s.above base) (operand.shifted base.next) name =
      selectedUse? d s operand name := by
  rw [selectedUse?, selectedUse?, packageOf?_above h, selected?_above h]

theorem callResults_above (callee : Expr) :
    callResults d (s.above base) (callee.shifted base.next) = callResults d s callee := by
  unfold callResults
  rw [Expr.stripParens_shifted]
  cases callee.stripParens with
  | select id span operand field =>
    simp only [Expr.shifted, State.use_above h, State.selection_above h]
  | _ => rfl

theorem valueTypes_above (values : List Expr) (names : Nat) :
    valueTypes (s.above base) (values.map (Expr.shifted base.next)) names =
      valueTypes s values names := by
  rcases values with _ | ⟨first, _ | ⟨second, rest⟩⟩
  · rfl
  · simp only [List.map_cons, List.map_nil, valueTypes, Expr.stripParens_shifted, Expr.id_shifted,
      State.results_above h, State.type_above h]
  · simp [valueTypes, State.type_above h]

end Meaning

namespace Tree

variable {base : State} {d : Declarations} {t : Tree}

theorem reads_above (base : State) (d : Declarations) : (Translation.above base).Reads d d where
  field _ := rfl
  kind _ := rfl
  children t := (List.map_id t.children).symm
  names _ := rfl
  token _ := rfl
  identifiers _ := rfl
  operator _ := rfl
  typeOf _ := rfl
  other _ := rfl

theorem translated_above (form : Form) : form.translated (.above base) = form := by
  rcases form with _ | _ | _ | _ | _ | _ | (_ | _) | _ | _ <;> rfl

/-- An expression that is made with later identities. -/
theorem made_shifted (t : Tree) (n : Nat) (id fieldId : NodeId) (form : Form) (es : List Expr) :
    t.made (n + id) (n + fieldId) form (es.map (Expr.shifted n)) =
      (t.made id fieldId form es).shifted n := by
  have hother : Expr.other (n + id) t.span t.kind.name (es.map (Expr.shifted n)) =
      (Expr.other id t.span t.kind.name es).shifted n := by
    rw [Expr.shifted, Expr.shiftedAll_eq]
  cases form with
  | paren =>
    rcases es with _ | ⟨inner, _ | ⟨next, rest⟩⟩
    · exact hother
    · rfl
    · exact hother
  | binary =>
    rcases es with _ | ⟨left, _ | ⟨right, _ | ⟨next, rest⟩⟩⟩
    · exact hother
    · exact hother
    · rfl
    · exact hother
  | select =>
    rcases es with _ | ⟨operand, _ | ⟨next, rest⟩⟩
    · exact hother
    · rfl
    · exact hother
  | call =>
    rcases es with _ | ⟨callee, args⟩
    · exact hother
    · rw [List.map_cons, made, made, Expr.shifted, Expr.shiftedAll_eq]
  | literal | name => rfl
  | typed | unary | other => exact hother

/-- The notes on a node are written on top of what is there. -/
theorem noted_above (h : base.Blank) (t : Tree) (id : NodeId) (form : Form) (es : List Expr)
    (s : State) :
    ((t.finish d (base.next + id) form (es.map (Expr.shifted base.next))).run (s.above base)).2 =
      ((t.finish d id form es).run s).2.above base := by
  -- what is written depends on the notes on the operands, which are found on top of the base
  have htype : ∀ type : Option StaticType,
      ((recordType? (base.next + id) type).run (s.above base)).2 =
        ((recordType? id type).run s).2.above base := by
    intro type
    cases type <;> rfl
  cases form with
  | name =>
    have hscopes : (s.above base).scopes = s.scopes := rfl
    simp only [finish, Meaning.resolveIdentifier, run_bind, run_get, hscopes]
    rcases s.scopes.lookup t.text with _ | _ | type
    · cases d.imports.get? t.text with
      | some path => rfl
      | none => cases d.functions.contains t.text <;> rfl
    · rfl
    · rfl
  | paren =>
    rcases es with _ | ⟨inner, _ | ⟨next, rest⟩⟩
    · rfl
    · simp only [List.map_cons, List.map_nil, finish, run_bind, run_typeOf, Expr.id_shifted,
        State.note_above h]
      exact htype _
    · rfl
  | binary operator =>
    rcases es with _ | ⟨left, _ | ⟨right, _ | ⟨next, rest⟩⟩⟩
    · rfl
    · rfl
    · simp only [List.map_cons, List.map_nil, finish, run_bind, run_typeOf, Expr.id_shifted,
        State.note_above h]
      exact htype _
    · rfl
  | select member =>
    rcases es with _ | ⟨operand, _ | ⟨next, rest⟩⟩
    · rfl
    · simp only [List.map_cons, List.map_nil, finish, run_bind, run_get, Meaning.selected?_above h,
        Meaning.selectedUse?_above h]
      generalize Meaning.selectedUse? d s operand member.text = use
      rcases Meaning.selected? d s operand member.text with _ | _ | _ <;> cases use <;> rfl
    · rfl
  | call =>
    rcases es with _ | ⟨callee, args⟩
    · rfl
    · rw [List.map_cons]
      unfold finish
      rw [run_bind, run_bind, run_get, run_get, Meaning.callResults_above h]
      rcases Meaning.callResults d s callee with _ | ⟨single, _ | ⟨next, rest⟩⟩ <;> rfl
  | typed type => exact htype type
  | unary operator =>
    rcases es with _ | ⟨first, rest⟩
    · exact htype _
    · simp only [List.map_cons, finish, run_bind, run_typeOf, Expr.id_shifted, State.note_above h]
      exact htype _
  | literal | other => rfl

/-- **On top of a state every node does what it does at the beginning.** -/
theorem faithful_above (h : base.Blank) (d : Declarations) : (Translation.above base).Faithful d d where
  toReads := reads_above base d
  next _ := rfl
  bump _ := rfl
  push _ := rfl
  pop _ := rfl
  declare s name type := by cases type <;> rfl
  values s names es es' hes := by
    have hes' : es' = es.map (Expr.shifted base.next) := by
      simpa only [Translation.above, List.map_id'] using hes
    have hsame : (Option.map (Translation.above base).type : Option StaticType → _) = id :=
      Option.map_id
    rw [hes', hsame, List.map_id]
    exact Meaning.valueTypes_above h s es names
  finish s id t es es' hes := by
    have hes' : es' = es.map (Expr.shifted base.next) := by
      simpa only [Translation.above, List.map_id'] using hes
    rw [hes', translated_above]
    refine ⟨?_, noted_above h t id _ es s⟩
    rw [run_finish, run_finish]
    exact made_shifted t base.next id s.next _ es

end Tree

end Go

/-! ## What is found in expressions -/

namespace Expr

variable {es : List Expr} {e : Expr}

theorem stripParens_mem_nodesOfAll (h : e ∈ nodesOfAll es) : e.stripParens ∈ nodesOfAll es := by
  fun_induction stripParens e with
  | case1 id span inner ih => exact ih (part_mem_nodesOfAll h (by simp [parts]))
  | case2 => exact h

end Expr

namespace Engine

open Go (State Note)

/-- Where some expressions begin, each with the violations that are found in it. -/
def reports (engine : Engine ρ) (path : String) (types : Resolver) (es : List Expr) :
    List (Nat × List Violation) :=
  es.map fun e => (e.span.start.offset, e.calls.flatMap (engine.checkCall path types))

theorem reports_append (engine : Engine ρ) (path : String) (types : Resolver) (es fs : List Expr) :
    engine.reports path types (es ++ fs) =
      engine.reports path types es ++ engine.reports path types fs :=
  List.map_append

/-- The violations of a file are those of its expressions, one after the other. -/
theorem check_eq_reports (engine : Engine ρ) (path : String) (types : Resolver) (es : List Expr) :
    engine.check ⟨path, es⟩ types = (engine.reports path types es).flatMap (·.2) := by
  have hcalls : (SourceUnit.mk path es).calls = es.flatMap Expr.calls := Go.callsOfAll_eq_flatMap es
  rw [check, hcalls, reports, List.flatMap_map, List.flatMap_assoc]

variable {engine : Engine ρ} {path : String} {s u : State} {n : Nat} {es : List Expr} {e call : Expr}

/-- Under later identities the same is known about the nodes of some expressions. -/
def SameNotes (n : Nat) (s u : State) (es : List Expr) : Prop :=
  ∀ i ∈ Expr.idsOfAll es, u.note (n + i) = s.note i

theorem SameNotes.note (h : SameNotes n s u es) (he : e ∈ Expr.nodesOfAll es) {i : NodeId}
    (hi : i ∈ e.own) : u.note (n + i) = s.note i :=
  h i (List.mem_flatMap.2 ⟨e, he, hi⟩)

theorem calledFunction?_shifted (h : SameNotes n s u es) (he : e ∈ Expr.nodesOfAll es) :
    LoggingApi.calledFunction? u.table.resolver (e.shifted n) =
      LoggingApi.calledFunction? s.table.resolver e := by
  cases e with
  | ident id span name =>
    have huse : u.table.uses.get? (n + id) = s.table.uses.get? id :=
      congrArg Note.use (h.note he (by simp [Expr.own, Expr.id]))
    simp only [Expr.shifted, LoggingApi.calledFunction?, TypeTable.resolver, huse]
  | select id span operand field =>
    have hselection : u.table.selections.get? (n + id) = s.table.selections.get? id :=
      congrArg Note.selection (h.note he (by simp [Expr.own]))
    have huse : u.table.uses.get? (n + field.id) = s.table.uses.get? field.id :=
      congrArg Note.use (h.note he (by simp [Expr.own]))
    simp only [Expr.shifted, LoggingApi.calledFunction?, TypeTable.resolver, hselection, huse]
  | _ => rfl

theorem isText_shifted (h : SameNotes n s u es) (he : e ∈ Expr.nodesOfAll es) :
    LoggingApi.isText u.table.resolver (e.shifted n) = LoggingApi.isText s.table.resolver e := by
  have hown : e.stripParens.id ∈ e.stripParens.own := by
    cases e.stripParens <;> simp [Expr.own, Expr.id]
  have htype : u.table.types.get? (n + e.stripParens.id) = s.table.types.get? e.stripParens.id :=
    congrArg Note.type (h.note (Expr.stripParens_mem_nodesOfAll he) hown)
  simp only [LoggingApi.isText, TypeTable.resolver, Expr.stripParens_shifted, Expr.id_shifted, htype]

/-- What is found in a call depends on what is known about the nodes in it. -/
theorem checkCall_shifted (h : SameNotes n s u es) (hcall : call ∈ Expr.nodesOfAll es) :
    engine.checkCall path u.table.resolver (call.shifted n) =
      engine.checkCall path s.table.resolver call := by
  cases call with
  | call id span callee args =>
    have hpart : ∀ e ∈ callee :: args, e ∈ Expr.nodesOfAll es := fun e he =>
      Expr.part_mem_nodesOfAll hcall he
    have hmessage : LoggingApi.resolve? u.table.resolver
        (.call (n + id) span (callee.shifted n) (args.map (Expr.shifted n))) =
        (LoggingApi.resolve? s.table.resolver (.call id span callee args)).map fun a =>
          ⟨a.expr.shifted n, a.index⟩ :=
      LoggingApi.resolve?_map (calledFunction?_shifted h (hpart callee List.mem_cons_self))
        fun a ha => isText_shifted h (hpart a (List.mem_cons_of_mem _ ha))
    rw [checkCall, checkCall, Expr.shifted, Expr.shiftedAll_eq, hmessage]
    cases LoggingApi.resolve? s.table.resolver (.call id span callee args) with
    | none => rfl
    | some argument => exact checkMessage_shifted engine path n argument.expr
  | _ => rfl

theorem reports_shifted (h : SameNotes n s u es) :
    engine.reports path u.table.resolver (es.map (Expr.shifted n)) =
      engine.reports path s.table.resolver es := by
  unfold reports
  rw [List.map_map]
  refine List.map_congr_left fun e he => ?_
  have hcalls : ∀ call ∈ e.calls, engine.checkCall path u.table.resolver (call.shifted n) =
      engine.checkCall path s.table.resolver call := by
    intro call hcall
    exact checkCall_shifted h (Expr.mem_nodesOfAll.2 ⟨e, he, List.mem_of_mem_filter hcall⟩)
  rw [Function.comp_apply, Expr.span_shifted, Expr.calls_shifted, List.flatMap_map,
    List.flatMap_congr hcalls]

end Engine

namespace Go

open Lower

/-! ## Statements on their own -/

namespace Tree

/-- What some statements leave behind if they are the first to be visited, with some names in
sight. -/
def alone (d : Declarations) (scopes : Scopes) (ts : List Tree) : List Expr × State :=
  (Task.runAll d (Task.takeAll .statement ts)).run { scopes := scopes }

/-- What is found in some statements, if they are the first to be visited. -/
def found (engine : Engine ρ) (path : String) (d : Declarations) (scopes : Scopes) (ts : List Tree) :
    List (Nat × List Violation) :=
  engine.reports path (alone d scopes ts).2.table.resolver (alone d scopes ts).1

variable {engine : Engine ρ} {path : String} {d : Declarations} {scopes : Scopes} {ts : List Tree}
  {base u : State}

/-- On top of a state, statements do what they do on their own. -/
theorem run_above (h : base.Blank) (d : Declarations) (ts : List Tree) :
    (Task.runAll d (Task.takeAll .statement ts)).run base =
      ((alone d base.scopes ts).1.map (Expr.shifted base.next),
        (alone d base.scopes ts).2.above base) := by
  have hdoes := fun t (_ : t ∈ ts) => (faithful_above h d).does .statement t
  obtain ⟨hes, hs⟩ := Translation.Faithful.runTakeAll hdoes { scopes := base.scopes }
  have hbase : State.above { scopes := base.scopes } base = base := rfl
  simp only [Translation.above, List.map_id', hbase] at hes hs
  exact Prod.ext hes hs

/-- The identities of statements on their own begin with the first one. -/
theorem lt_of_mem_ids {i : NodeId} (h : i ∈ Expr.idsOfAll (alone d scopes ts).1) :
    i < (alone d scopes ts).2.next := by
  have hnumbers : Numbers (Task.runAll d (Task.takeAll .statement ts)) :=
    Task.runAll_of_taken composes_numbers _ fun role c _ => numbers_does d role c
  obtain ⟨n, hnext, hids⟩ := hnumbers { scopes := scopes }
  have hi := List.mem_range'_1.1 (hids.mem_iff.1 h)
  exact Nat.lt_of_lt_of_eq hi.2 hnext.symm

/-- **What is found in statements depends on the names in sight**, and not on what was done before or
is done afterwards. -/
theorem reports_runAll (h : base.Blank)
    (hu : ((Task.runAll d (Task.takeAll .statement ts)).run base).2.Extends u) :
    engine.reports path u.table.resolver ((Task.runAll d (Task.takeAll .statement ts)).run base).1 =
      found engine path d base.scopes ts := by
  rw [run_above h] at hu ⊢
  refine Engine.reports_shifted fun i hi => ?_
  have hlt : base.next + i < base.next + (alone d base.scopes ts).2.next :=
    Nat.add_lt_add_left (lt_of_mem_ids hi) _
  rw [hu.note _ hlt, State.note_above h]

/-- What is found in statements that follow others. -/
theorem found_append (engine : Engine ρ) (path : String) (d : Declarations) (scopes : Scopes)
    (ts us : List Tree) : found engine path d scopes (ts ++ us) =
      found engine path d scopes ts ++ found engine path d (alone d scopes ts).2.scopes us := by
  have hblank : State.Blank { scopes := scopes } := fun _ _ => rfl
  have hfirst := keeps_tasks d (Task.takeAll .statement ts) { scopes := scopes } hblank
  have hsecond := keeps_tasks d (Task.takeAll .statement us) (alone d scopes ts).2 hfirst.blank
  have hrun : alone d scopes (ts ++ us) =
      ((alone d scopes ts).1 ++
          ((Task.runAll d (Task.takeAll .statement us)).run (alone d scopes ts).2).1,
        ((Task.runAll d (Task.takeAll .statement us)).run (alone d scopes ts).2).2) := by
    rw [alone, Task.takeAll, List.map_append, Task.runAll_append]
    rfl
  have hts : engine.reports path
      ((Task.runAll d (Task.takeAll .statement us)).run (alone d scopes ts).2).2.table.resolver
        (alone d scopes ts).1 = found engine path d scopes ts :=
    reports_runAll hblank hsecond.extends_
  have hus : engine.reports path
      ((Task.runAll d (Task.takeAll .statement us)).run (alone d scopes ts).2).2.table.resolver
        ((Task.runAll d (Task.takeAll .statement us)).run (alone d scopes ts).2).1 =
      found engine path d (alone d scopes ts).2.scopes us :=
    reports_runAll hfirst.blank (.refl _)
  rw [found, hrun, Engine.reports_append, hts, hus]

/-- Statements that bind no names do not depend on each other. -/
theorem found_eq_flatMap (engine : Engine ρ) (path : String)
    (h : ∀ t ∈ ts, (alone d scopes [t]).2.scopes = scopes) :
    found engine path d scopes ts = ts.flatMap fun t => found engine path d scopes [t] := by
  induction ts with
  | nil => rfl
  | cons t ts ih =>
    have hrest := ih fun c hc => h c (List.mem_cons_of_mem _ hc)
    have hcons := found_append engine path d scopes [t] ts
    rw [h t List.mem_cons_self, List.singleton_append] at hcons
    rw [hcons, hrest, List.flatMap_cons]

end Tree

end Go

end LogStyle
