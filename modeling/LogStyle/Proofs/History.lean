import LogStyle.Proofs.Shadowing
import Mathlib.Data.List.Induction
import Mathlib.Order.WellFounded

/-!
# The history of scopes

Blocks are opened and closed and names are bound in any order, and blocks may be closed that were
never opened. A history of such operations says by itself which bindings are still in force: those
whose block was not closed since.

* `Operation.Matched`: operations in which blocks are opened and closed in pairs.
* `Operation.Closed`: what was done at some point of a history is closed by what follows.
* `Operation.Open`: a binding of a name that is still in force.
* `Operation.Answers`: the last open binding of a name in the innermost block that has one.
* `performAll_matched`: a block that is opened and closed again leaves nothing behind.
* `lookup_outermost`: what a name is bound to in the outermost blocks.
* `lookup_history`: **after any history a name is bound to what its last open binding in the innermost
  block says.**
-/

namespace LogStyle.Go.Scopes

/-- What may be done with scopes. -/
inductive Operation where
  | push
  | pop
  | declare (name : String) (type : Option StaticType)
  /-- A name is looked up, which changes nothing. -/
  | lookup (name : String)

def perform (s : Scopes) : Operation → Scopes
  | .push => s.push
  | .pop => s.pop
  | .declare name type => s.declare name type
  | .lookup _ => s

def performAll (s : Scopes) (ops : List Operation) : Scopes := ops.foldl perform s

theorem performAll_append (s : Scopes) (as bs : List Operation) :
    s.performAll (as ++ bs) = (s.performAll as).performAll bs :=
  List.foldl_append

namespace Operation

/-! ## Brackets -/

/-- How many nested blocks are open after an operation, given how many were open before. There may be
none that could be closed. -/
def level (n : Nat) : Operation → Nat
  | push => n + 1
  | pop => n - 1
  | declare .. | lookup _ => n

def levelAll (n : Nat) (ops : List Operation) : Nat := ops.foldl level n

/-- Operations in which every block that is opened is closed, and no other one. -/
inductive Matched : List Operation → Prop where
  | nil : Matched []
  | declare {name : String} {type : Option StaticType} {rest : List Operation} :
      Matched rest → Matched (declare name type :: rest)
  | lookup {name : String} {rest : List Operation} : Matched rest → Matched (lookup name :: rest)
  | block {inner rest : List Operation} : Matched inner → Matched rest →
      Matched (push :: inner ++ pop :: rest)

/-- What was done in a nested block is closed by what follows: the block in which it was done is
closed. -/
def Closed (before after : List Operation) : Prop :=
  0 < levelAll 0 before ∧ ∃ inner rest, Matched inner ∧ after = inner ++ pop :: rest

variable {before after inner ops : List Operation} {n : Nat}

theorem levelAll_append (n : Nat) (as bs : List Operation) :
    levelAll n (as ++ bs) = levelAll (levelAll n as) bs :=
  List.foldl_append

theorem levelAll_block (n : Nat) (inner rest : List Operation) :
    levelAll n (push :: inner ++ pop :: rest) = levelAll (levelAll (n + 1) inner - 1) rest :=
  levelAll_append (n + 1) inner (pop :: rest)

theorem Matched.levelAll_eq (h : Matched ops) (n : Nat) : levelAll n ops = n := by
  induction h generalizing n with
  | nil => rfl
  | declare _ ih => exact ih n
  | lookup _ ih => exact ih n
  | block _ _ ihi ihr => rw [levelAll_block, ihi, Nat.add_sub_cancel, ihr]

/-- Either blocks are opened and closed in pairs, or a block is closed that was open before, or a
block stays open. -/
theorem matched_or (ops : List Operation) :
    Matched ops ∨ (∃ inner rest, Matched inner ∧ ops = inner ++ pop :: rest) ∨
      ∀ n, n < levelAll n ops := by
  match ops with
  | [] => exact .inl .nil
  | pop :: rest => exact .inr (.inl ⟨[], rest, .nil, rfl⟩)
  | declare name type :: rest =>
    rcases matched_or rest with h | ⟨inner, rest', h, rfl⟩ | h
    · exact .inl h.declare
    · exact .inr (.inl ⟨declare name type :: inner, rest', h.declare, rfl⟩)
    · exact .inr (.inr h)
  | lookup name :: rest =>
    rcases matched_or rest with h | ⟨inner, rest', h, rfl⟩ | h
    · exact .inl h.lookup
    · exact .inr (.inl ⟨lookup name :: inner, rest', h.lookup, rfl⟩)
    · exact .inr (.inr h)
  | push :: rest =>
    rcases matched_or rest with h | ⟨inner, rest', h, rfl⟩ | h
    · refine .inr (.inr fun n => ?_)
      exact Nat.lt_of_lt_of_eq (Nat.lt_succ_self n) (h.levelAll_eq (n + 1)).symm
    · -- the block that is opened here is closed, and what counts is what follows
      have hlevel : ∀ n, levelAll n (push :: inner ++ pop :: rest') = levelAll n rest' := by
        intro n
        rw [levelAll_block, h.levelAll_eq, Nat.add_sub_cancel]
      rcases matched_or rest' with h' | ⟨inner', rest'', h', rfl⟩ | h'
      · exact .inl (h.block h')
      · refine .inr (.inl ⟨push :: inner ++ pop :: inner', rest'', h.block h', ?_⟩)
        simp
      · exact .inr (.inr fun n => Nat.lt_of_lt_of_eq (h' n) (hlevel n).symm)
    · exact .inr (.inr fun n => Nat.lt_trans (Nat.lt_succ_self n) (h (n + 1)))
termination_by ops.length
decreasing_by
  all_goals simp_all
  all_goals omega

theorem Closed.append (h : Closed before after) (ops : List Operation) :
    Closed before (after ++ ops) := by
  obtain ⟨hopen, inner, rest, hinner, rfl⟩ := h
  exact ⟨hopen, inner, rest ++ ops, hinner, by simp⟩

/-- One more operation closes what was open only if it closes the block in which this was done. -/
theorem closed_concat_iff {op : Operation} : Closed before (after ++ [op]) ↔
    Closed before after ∨ op = pop ∧ 0 < levelAll 0 before ∧ Matched after := by
  constructor
  · rintro ⟨hopen, inner, rest, hinner, heq⟩
    rcases List.eq_nil_or_concat rest with rfl | ⟨rest, last, rfl⟩
    · obtain ⟨rfl, rfl⟩ := List.concat_inj.1 (by simpa using heq)
      exact .inr ⟨rfl, hopen, hinner⟩
    · have hsplit : after ++ [op] = (inner ++ pop :: rest) ++ [last] := by simpa using heq
      exact .inl ⟨hopen, inner, rest, hinner, (List.append_inj' hsplit rfl).1⟩
  · rintro (h | ⟨rfl, hopen, hmatched⟩)
    · exact h.append [op]
    · exact ⟨hopen, after, [], hmatched, rfl⟩

/-- As long as the block in which something was done is open, no fewer blocks are open. -/
theorem levelAll_le (h : ¬Closed before after) :
    levelAll 0 before ≤ levelAll (levelAll 0 before) after := by
  rcases Nat.eq_zero_or_pos (levelAll 0 before) with hzero | hpos
  · rw [hzero]
    exact Nat.zero_le _
  · rcases matched_or after with hmatched | hclosed | hlt
    · exact Nat.le_of_eq (hmatched.levelAll_eq _).symm
    · exact absurd ⟨hpos, hclosed⟩ h
    · exact Nat.le_of_lt (hlt _)

/-! ## Open bindings -/

/-- After some operations of a history a name was bound, and this is still in force. -/
def Open (history : List Operation) (name : String) (type : Option StaticType)
    (before : List Operation) : Prop :=
  ∃ after, history = before ++ declare name type :: after ∧ ¬Closed before after

/-- The open binding of a name that counts. -/
structure Answers (history : List Operation) (name : String) (type : Option StaticType)
    (before : List Operation) : Prop where
  isOpen : Open history name type before
  /-- No block further inside has an open binding of the name. -/
  innermost : ∀ type' before', Open history name type' before' →
    levelAll 0 before' ≤ levelAll 0 before
  /-- No open binding of the name in the same block comes later. -/
  last : ∀ type' before', Open history name type' before' →
    levelAll 0 before' = levelAll 0 before → before'.length ≤ before.length

variable {history : List Operation} {name : String} {type type' : Option StaticType}
  {before' : List Operation}

theorem Open.level_le (h : Open history name type before) :
    levelAll 0 before ≤ levelAll 0 history := by
  obtain ⟨after, rfl, hopen⟩ := h
  have hle := levelAll_le hopen
  rw [levelAll_append]
  exact hle

/-- What is open after one more operation. -/
theorem open_concat_iff {op : Operation} : Open (history ++ [op]) name type before ↔
    (op = declare name type ∧ before = history) ∨
      ∃ after, history = before ++ declare name type :: after ∧ ¬Closed before (after ++ [op]) := by
  constructor
  · rintro ⟨after, heq, hopen⟩
    rcases List.eq_nil_or_concat after with rfl | ⟨after, last, rfl⟩
    · obtain ⟨rfl, hop⟩ := List.append_inj' heq rfl
      exact .inl ⟨(List.singleton_inj.1 hop), rfl⟩
    · have hsplit : history ++ [op] = (before ++ declare name type :: after) ++ [last] := by
        simpa using heq
      obtain ⟨rfl, hop⟩ := List.append_inj' hsplit rfl
      obtain rfl := List.singleton_inj.1 hop
      rw [List.concat_eq_append] at hopen
      exact .inr ⟨after, rfl, hopen⟩
  · rintro (⟨rfl, rfl⟩ | ⟨after, rfl, hopen⟩)
    · refine ⟨[], rfl, ?_⟩
      rintro ⟨-, inner, rest, -, heq⟩
      simp at heq
    · exact ⟨after ++ [op], by simp, hopen⟩

/-- A binding is still open after an operation that closes no block and does not bind the name. -/
theorem open_concat_of_ne {op : Operation} (hpop : op ≠ pop) (hname : ∀ type, op ≠ declare name type) :
    Open (history ++ [op]) name type before ↔ Open history name type before := by
  rw [open_concat_iff, or_iff_right fun h => hname type h.1]
  refine exists_congr fun after => and_congr_right fun _ => ?_
  rw [closed_concat_iff, or_iff_left fun h => hpop h.1]

/-- When a block is closed, the bindings in the blocks around it stay open. -/
theorem open_concat_pop : Open (history ++ [pop]) name type before ↔
    Open history name type before ∧ levelAll 0 before ≤ levelAll 0 history - 1 := by
  constructor
  · intro h
    have hlevel := h.level_le
    rw [levelAll_append] at hlevel
    rw [open_concat_iff, or_iff_right (by simp)] at h
    obtain ⟨after, heq, hopen⟩ := h
    exact ⟨⟨after, heq, fun hclosed => hopen (hclosed.append [pop])⟩, hlevel⟩
  · rintro ⟨⟨after, rfl, hopen⟩, hlevel⟩
    refine open_concat_iff.2 (.inr ⟨after, rfl, fun hclosed => ?_⟩)
    rcases closed_concat_iff.1 hclosed with hclosed | ⟨-, hpos, hmatched⟩
    · exact hopen hclosed
    · have heq : levelAll 0 (before ++ declare name type :: after) = levelAll 0 before := by
        rw [levelAll_append]
        exact hmatched.levelAll_eq _
      omega

/-- Of two open bindings, the later one is in the same block as the earlier one or inside of it. -/
theorem Open.level_le_of_length (h : Open history name type before)
    (h' : Open history name type' before') (hlt : before.length < before'.length) :
    levelAll 0 before ≤ levelAll 0 before' := by
  obtain ⟨after, rfl, hopen⟩ := h
  obtain ⟨after', heq, -⟩ := h'
  rcases List.append_eq_append_iff.1 heq with ⟨mid, rfl, hmid⟩ | ⟨mid, rfl, -⟩
  · cases mid with
    | nil => simp at hlt
    | cons op mid =>
      obtain ⟨rfl, rfl⟩ := List.cons.inj hmid
      have hle : levelAll 0 before ≤ levelAll (levelAll 0 before) mid :=
        levelAll_le fun hclosed => hopen (hclosed.append _)
      rw [levelAll_append]
      exact hle
  · rw [List.length_append] at hlt
    omega

/-- The last open binding of a name in the outermost blocks, up to some number of nested ones. -/
def Latest (history : List Operation) (name : String) (n : Nat) (type : Option StaticType) : Prop :=
  ∃ before, (Open history name type before ∧ levelAll 0 before ≤ n) ∧
    ∀ type' before', Open history name type' before' ∧ levelAll 0 before' ≤ n →
      before'.length ≤ before.length

theorem latest_congr {history' : List Operation} {n' : Nat}
    (h : ∀ type before, (Open history' name type before ∧ levelAll 0 before ≤ n') ↔
      (Open history name type before ∧ levelAll 0 before ≤ n)) :
    Latest history' name n' type ↔ Latest history name n type := by
  simp only [Latest, h]

theorem latest_concat_declare (h : levelAll 0 history ≤ n) :
    Latest (history ++ [declare name type']) name n type ↔ type' = type := by
  have hlength : ∀ {type before}, Open (history ++ [declare name type']) name type before →
      before.length ≤ history.length := by
    intro type before hopen
    rcases open_concat_iff.1 hopen with ⟨-, rfl⟩ | ⟨after, rfl, -⟩ <;> simp
  constructor
  · rintro ⟨before, ⟨hopen, -⟩, hlast⟩
    have hle := hlast type' history ⟨open_concat_iff.2 (.inl ⟨rfl, rfl⟩), h⟩
    rcases open_concat_iff.1 hopen with ⟨heq, -⟩ | ⟨after, rfl, -⟩
    · exact (declare.inj heq).2
    · simp only [List.length_append, List.length_cons] at hle
      omega
  · rintro rfl
    exact ⟨history, ⟨open_concat_iff.2 (.inl ⟨rfl, rfl⟩), h⟩, fun _ _ h' => hlength h'.1⟩

/-- A name that is bound further inside is of no account in the outermost blocks. -/
theorem latest_concat_inner (h : n < levelAll 0 history) :
    Latest (history ++ [declare name type']) name n type ↔ Latest history name n type := by
  refine latest_congr fun type before => and_congr_left fun hlevel => ?_
  rw [open_concat_iff, or_iff_right]
  · refine exists_congr fun after => and_congr_right fun _ => ?_
    rw [closed_concat_iff, or_iff_left fun hpop => by cases hpop.1]
  · rintro ⟨-, rfl⟩
    omega

/-- All open bindings are in the blocks that are open. -/
theorem latest_iff_answers (hn : levelAll 0 history ≤ n) :
    Latest history name n type ↔ ∃ before, Answers history name type before := by
  have hall : ∀ {type before}, Open history name type before → levelAll 0 before ≤ n :=
    fun h => Nat.le_trans h.level_le hn
  refine exists_congr fun before => ⟨?_, fun h => ⟨⟨h.isOpen, hall h.isOpen⟩, ?_⟩⟩
  · rintro ⟨⟨hopen, -⟩, hlast⟩
    refine ⟨hopen, fun type' before' h' => ?_, fun type' before' h' _ => ?_⟩
    · rcases Nat.lt_or_eq_of_le (hlast type' before' ⟨h', hall h'⟩) with hlt | heq
      · exact h'.level_le_of_length hopen hlt
      · obtain ⟨after, hsplit, -⟩ := hopen
        obtain ⟨after', hsplit', -⟩ := h'
        rw [(List.append_inj (hsplit.symm.trans hsplit') heq.symm).1]
    · exact hlast type' before' ⟨h', hall h'⟩
  · rintro type' before' ⟨h', -⟩
    by_contra hlt
    have hle := h.isOpen.level_le_of_length h' (Nat.lt_of_not_le hlt)
    exact hlt (h.last type' before' h' (Nat.le_antisymm (h.innermost type' before' h') hle))

/-- If there is an open binding, one of them is the last. -/
theorem exists_latest (h : Open history name type before) :
    ∃ type, Latest history name (levelAll 0 history) type := by
  have hlength : ∀ {type before}, Open history name type before → before.length < history.length := by
    rintro type before ⟨after, rfl, -⟩
    simp
  -- the binding with the least to come after it
  obtain ⟨last, ⟨type', hlast⟩, hleast⟩ :=
    (measure fun before : List Operation => history.length - before.length).wf.has_min
      {before | ∃ type, Open history name type before} ⟨before, type, h⟩
  refine ⟨type', last, ⟨hlast, hlast.level_le⟩, fun type'' before'' h'' => ?_⟩
  have hnot := hleast before'' ⟨type'', h''.1⟩
  have hlt := hlength hlast
  have hlt' := hlength h''.1
  simp only [WellFoundedRelation.rel, InvImage] at hnot
  omega

end Operation

open Operation

/-! ## What is bound -/

variable {s : Scopes} {name : String} {type : Option StaticType} {n : Nat}

theorem performAll_block (s : Scopes) (inner rest : List Operation) :
    s.performAll (.push :: inner ++ .pop :: rest) = (s.push.performAll inner).pop.performAll rest :=
  performAll_append s.push inner (.pop :: rest)

theorem nested_performAll (h : s.nested ≠ []) {inner : List Operation} (hinner : Matched inner) :
    (s.performAll inner).nested ≠ [] ∧ (s.performAll inner).pop = s.pop := by
  induction hinner generalizing s with
  | nil => exact ⟨h, rfl⟩
  | @declare name type rest _ ih =>
    obtain ⟨hopen, hpop⟩ := nested_declare h name type
    obtain ⟨hopen', hpop'⟩ := ih hopen
    exact ⟨hopen', hpop'.trans hpop⟩
  | lookup _ ih => exact ih h
  | @block inner rest _ _ ihi ihr =>
    have hblock : s.performAll (.push :: inner ++ .pop :: rest) = s.performAll rest := by
      rw [performAll_block, (ihi s.nested_push).2]
      rfl
    rw [hblock]
    exact ihr h

/-- **A block that is opened and closed again leaves nothing behind.** -/
theorem performAll_matched (s : Scopes) {inner : List Operation} (h : Matched inner) :
    s.performAll (.push :: inner ++ [.pop]) = s := by
  rw [performAll_block, (nested_performAll s.nested_push h).2]
  rfl

theorem length_nested_perform (s : Scopes) (op : Operation) :
    (s.perform op).nested.length = level s.nested.length op := by
  cases op with
  | push | lookup => rfl
  | pop => exact List.length_tail
  | declare name type =>
    simp only [perform, declare, level]
    split
    · rfl
    · cases s.nested <;> rfl

theorem length_nested_performAll (s : Scopes) (ops : List Operation) :
    (s.performAll ops).nested.length = levelAll s.nested.length ops := by
  induction ops generalizing s with
  | nil => rfl
  | cons op ops ih =>
    have hrest := ih (s.perform op)
    rw [length_nested_perform] at hrest
    exact hrest

theorem lookup_eq_none_iff : s.lookup name = none ↔ ∀ frame ∈ s.frames, frame.get? name = none :=
  List.findSome?_eq_none_iff

theorem lookup_blank (history : List Operation) : (performAll {} history).lookup "_" = none := by
  induction history using List.reverseRecOn with
  | nil => rfl
  | append_singleton history op ih =>
    rw [performAll_append]
    generalize performAll {} history = s at ih
    cases op with
    | push | lookup => exact ih
    | pop =>
      rw [lookup_eq_none_iff] at ih ⊢
      intro frame hframe
      refine ih frame ?_
      rcases List.mem_append.1 hframe with hnested | hfile
      · exact List.mem_append_left _ (List.mem_of_mem_tail hnested)
      · exact List.mem_append_right _ hfile
    | declare name type =>
      change (s.declare name type).lookup "_" = none
      rw [lookup_declare, if_neg fun h => h.2 h.1.symm, ih]

/-- The outermost blocks: the file and at most a number of nested ones. -/
def outermost (s : Scopes) (n : Nat) : Scopes :=
  { s with nested := s.nested.drop (s.nested.length - n) }

theorem outermost_of_le (h : s.nested.length ≤ n) : s.outermost n = s := by
  rw [outermost, Nat.sub_eq_zero_of_le h, List.drop_zero]

theorem lookup_outermost_push (s : Scopes) (n : Nat) (name : String) :
    (s.push.outermost n).lookup name = (s.outermost n).lookup name := by
  rcases Nat.lt_or_ge s.nested.length n with hlt | hge
  · rw [outermost_of_le (Nat.le_of_lt hlt), outermost_of_le (s := s.push) hlt]
    rfl
  · have hpush : s.push.outermost n = s.outermost n := by
      simp only [outermost, push, List.length_cons, Nat.succ_sub hge, List.drop_succ_cons]
    rw [hpush]

theorem outermost_pop (s : Scopes) (n : Nat) :
    s.pop.outermost n = s.outermost (min n (s.nested.length - 1)) := by
  cases hnested : s.nested with
  | nil => simp [outermost, pop, hnested]
  | cons frame outer =>
    have hdrop : outer.length + 1 - min n outer.length = (outer.length - n) + 1 := by omega
    simp only [outermost, pop, hnested, List.tail_cons, List.length_cons, Nat.add_sub_cancel, hdrop,
      List.drop_succ_cons]

theorem lookup_outermost_declare (s : Scopes) (n : Nat) (name other : String)
    (type : Option StaticType) : ((s.declare other type).outermost n).lookup name =
      if s.nested.length ≤ n ∧ name = other ∧ other ≠ "_" then some type
      else (s.outermost n).lookup name := by
  rcases Nat.lt_or_ge n s.nested.length with hlt | hge
  · rw [if_neg fun h => absurd h.1 (Nat.not_le_of_lt hlt)]
    -- the innermost block, in which the name is bound, is not one of the outermost ones
    have hpop := (nested_declare (List.ne_nil_of_length_pos (Nat.zero_lt_of_lt hlt)) other type).2
    have hlength : (s.declare other type).nested.length = s.nested.length :=
      length_nested_perform s (.declare other type)
    have houter : ∀ u : Scopes, n < u.nested.length → u.pop.outermost n = u.outermost n := by
      intro u hu
      rw [outermost_pop, Nat.min_eq_left (Nat.le_sub_one_of_lt hu)]
    rw [← houter s hlt, ← hpop, houter _ (hlength ▸ hlt)]
  · have hlength : (s.declare other type).nested.length ≤ n :=
      Nat.le_trans (Nat.le_of_eq (length_nested_perform s (.declare other type))) hge
    rw [outermost_of_le hge, outermost_of_le hlength, lookup_declare]
    simp [hge]

/-- **What a name is bound to in the outermost blocks is what its last open binding there says.** -/
theorem lookup_outermost (hname : name ≠ "_") (history : List Operation) (n : Nat)
    (type : Option StaticType) :
    ((performAll {} history).outermost n).lookup name = some type ↔ Latest history name n type := by
  induction history using List.reverseRecOn generalizing n type with
  | nil =>
    have hnothing : ¬Latest [] name n type := by
      rintro ⟨before, ⟨⟨after, heq, -⟩, -⟩, -⟩
      simp at heq
    have hunbound : ((performAll {} []).outermost n).lookup name = none := by
      simp [performAll, outermost, Scopes.lookup, frames]
    rw [hunbound, iff_false_right hnothing]
    exact Option.some_ne_none type ∘ Eq.symm
  | append_singleton history op ih =>
    have hlength : (performAll {} history).nested.length = levelAll 0 history :=
      length_nested_performAll {} history
    rw [performAll_append]
    generalize performAll {} history = s at ih hlength
    change ((s.perform op).outermost n).lookup name = some type ↔ _
    have hkept : op ≠ .pop → (∀ type, op ≠ .declare name type) →
        (Latest (history ++ [op]) name n type ↔ Latest history name n type) :=
      fun hpop hother => latest_congr fun type before => by rw [open_concat_of_ne hpop hother]
    cases op with
    | push =>
      rw [hkept (by simp) (by simp), ← ih]
      exact Eq.congr_left (lookup_outermost_push s n name)
    | lookup other =>
      rw [hkept (by simp) (by simp), ← ih]
      rfl
    | pop =>
      have hlatest : Latest (history ++ [.pop]) name n type ↔
          Latest history name (min n (levelAll 0 history - 1)) type :=
        latest_congr fun type before => by
          rw [open_concat_pop, Nat.le_min, and_assoc, and_comm (b := _ ≤ n)]
      rw [hlatest, ← ih, ← hlength, ← outermost_pop]
      rfl
    | declare other type' =>
      rw [perform, lookup_outermost_declare, hlength]
      by_cases hother : name = other
      · subst hother
        rcases Nat.lt_or_ge n (levelAll 0 history) with hlt | hge
        · rw [if_neg fun h => absurd h.1 (Nat.not_le_of_lt hlt), latest_concat_inner hlt, ih]
        · rw [if_pos ⟨hge, rfl, hname⟩, latest_concat_declare hge, Option.some_inj]
      · rw [if_neg fun h => hother h.2.1, hkept (by simp) (by simp [Ne.symm hother]), ih]

/-- **After any history a name is bound to what its last open binding in the innermost block says**, and
to nothing if it has no open binding. The blank name is never bound, and a block that is opened and
closed again leaves nothing behind. -/
theorem lookup_history (history : List Operation) (name : String) :
    (name ≠ "_" →
      (∀ type, (performAll {} history).lookup name = some type ↔
        ∃ before, Answers history name type before) ∧
      ((performAll {} history).lookup name = none ↔
        ∀ type before, ¬Open history name type before)) ∧
    (performAll {} history).lookup "_" = none ∧
    ∀ s inner, Matched inner → performAll s (.push :: inner ++ [.pop]) = s := by
  refine ⟨fun hname => ?_, ?_, fun s inner h => performAll_matched s h⟩
  · have hlength : (performAll {} history).nested.length = levelAll 0 history :=
      length_nested_performAll {} history
    have hlatest : ∀ type, (performAll {} history).lookup name = some type ↔
        Latest history name (levelAll 0 history) type := by
      intro type
      rw [← lookup_outermost hname, outermost_of_le (Nat.le_of_eq hlength)]
    refine ⟨fun type => (hlatest type).trans (latest_iff_answers (Nat.le_refl _)), ?_⟩
    constructor
    · intro hnone type before hopen
      obtain ⟨type', hlast⟩ := exists_latest hopen
      rw [(hlatest type').2 hlast] at hnone
      cases hnone
    · intro hnone
      cases hlookup : (performAll {} history).lookup name with
      | none => rfl
      | some type =>
        obtain ⟨before, ⟨hopen, -⟩, -⟩ := (hlatest type).1 hlookup
        exact absurd hopen (hnone type before)
  · exact lookup_blank history

-- closing what was never opened leaves the binding of the file in force
example : (performAll {} [.pop, .declare "x" (some .string), .push, .declare "x" none, .pop,
    .pop]).lookup "x" = some (some .string) := by
  decide +kernel

end LogStyle.Go.Scopes
