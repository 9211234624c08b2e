import LogStyle.Proofs.Choice
import LogStyle.Proofs.Placement
import LogStyle.Proofs.Texts

/-!
# Replacements of one file do not clash

A replacement is for an argument that is one literal, parentheses aside. Such an argument has no call
inside, so that the messages of a well nested file lie apart from each other.

* `Reached.literalsOf`: on the way through a file no literal is come to that is not one of
  `Tree.literals`.
* `exists_literal`: **the literal arguments of the calls of a file are among them.**
* `clear_replacements`: two replacements are at the place of one literal or apart.
* `replacements_made`: **of the replacements for a file none clash except for one message, and the
  earliest rule has its way.**
-/

namespace LogStyle

namespace Go

namespace Tree

/-! ## Arguments of calls -/

variable {t c x : Tree} {ts : List Tree} {d : Declarations} {s : State} {role : Role}

/-- Only literals and parentheses are read as literals. -/
theorem raw?_isSome_eq_false (h : t.kind = .expressionList ∨ t.kind = .callExpression) :
    t.raw?.isSome = false := by
  rw [Bool.eq_false_iff]
  intro hsome
  rcases kind_of_raw? hsome with hkind | hkind | hkind <;> simp [hkind] at h

theorem literalsOf_false (t : Tree) : literalsOf false t =
    if t.raw?.isSome then [] else literalsIn t.isApplied t.children := by
  cases t
  rw [literalsOf, if_neg Bool.false_ne_true]
  rfl

theorem literalsOf_true (t : Tree) : literalsOf true t = literalsAmong t.children := by
  cases t
  rw [literalsOf, if_pos rfl]
  rfl

theorem mem_literalsIn {applied : Bool} (hc : c ∈ ts)
    (hx : x ∈ literalsOf (applied && c.field = some .arguments) c) : x ∈ literalsIn applied ts := by
  induction ts with
  | nil => cases hc
  | cons t ts ih =>
    rw [literalsIn, List.mem_append]
    rcases List.mem_cons.1 hc with rfl | hc
    · exact .inl hx
    · exact .inr (ih hc)

theorem mem_literalsAmong (hc : c ∈ ts)
    (hx : x ∈ if c.raw?.isSome then [c] else literalsOf false c) : x ∈ literalsAmong ts := by
  induction ts with
  | nil => cases hc
  | cons t ts ih =>
    rw [literalsAmong, List.mem_append]
    rcases List.mem_cons.1 hc with rfl | hc
    · exact .inl hx
    · exact .inr (ih hc)

/-- The literals below a node that may be taken are those below the node that it is near to. -/
theorem Near.literalsOf (h : t.Near c) (hraw : t.raw?.isSome = false) :
    literalsOf false c ⊆ literalsOf false t := by
  intro x hx
  rw [literalsOf_false t, hraw, if_neg Bool.false_ne_true]
  cases h with
  | child hc hfield =>
    refine mem_literalsIn hc ?_
    have hplain : (t.isApplied && decide (c.field = some .arguments)) = false := by
      rw [Bool.and_eq_false_iff, decide_eq_false_iff_not]
      cases happlied : t.isApplied with
      | false => exact .inl rfl
      | true => exact .inr (hfield happlied)
    rwa [hplain]
  | @listed list _ happlied hlist hc =>
    refine mem_literalsIn hlist ?_
    rw [happlied, Bool.false_and]
    unfold Tree.listed at hc
    split at hc
    · rename_i hkind
      -- a list of expressions is neither a literal nor a call
      have hraw' : list.raw?.isSome = false := raw?_isSome_eq_false (.inl hkind)
      have happlied' : list.isApplied = false := by simp [isApplied, hkind]
      rw [literalsOf_false list, hraw', if_neg Bool.false_ne_true, happlied']
      refine mem_literalsIn (mem_children_of_mem_parts hc) ?_
      rwa [Bool.false_and]
    · rwa [← List.mem_singleton.1 hc]
  | @argument arguments _ happlied harguments hfield hc =>
    refine mem_literalsIn harguments ?_
    rw [happlied, hfield, Bool.true_and, decide_eq_true rfl, literalsOf_true]
    refine mem_literalsAmong (mem_children_of_mem_parts hc) ?_
    split
    · rename_i hraw'
      rw [literalsOf_false, if_pos hraw'] at hx
      cases hx
    · exact hx

/-- In the work for a literal only literals are taken. -/
theorem raw?_of_mem_tasks {role' : Role} (hraw : t.raw?.isSome = true)
    (h : (role', c) ∈ Task.takenIn (t.tasks d role)) : c.raw?.isSome = true := by
  have hkind := kind_of_raw? hraw
  cases role with
  | statement =>
    have hself : (role', c) ∈ Task.takenIn [.take .expression t] := by
      simp only [tasks, work] at h
      rcases hkind with hkind | hkind | hkind <;> rw [hkind] at h <;> exact h
    simp only [Task.takenIn, Task.taken, List.append_nil, List.mem_singleton, Prod.mk.injEq] at hself
    rwa [hself.2]
  | expression =>
    simp only [tasks, plan] at h
    rcases hkind with hkind | hkind | hkind <;> rw [hkind] at h
    · cases h
    · cases h
    · -- the parentheses have the literal as their first part
      have hfirst : t.raw? = t.parts.head?.bind raw? := by
        obtain ⟨field, kind, span, text, children⟩ := t
        obtain rfl : kind = .parenthesizedExpression := hkind
        exact rawOfFirst?_eq children
      dsimp only at h
      split at h
      · cases h
      · rename_i inner rest hparts
        rw [List.mem_singleton.1 (mem_takeAll h)]
        rwa [hfirst, hparts] at hraw

theorem literalsOf_of_mem_tasks {role' : Role} (h : (role', c) ∈ Task.takenIn (t.tasks d role)) :
    literalsOf false c ⊆ literalsOf false t := by
  cases hraw : t.raw?.isSome with
  | true =>
    rw [literalsOf_false c, if_pos (raw?_of_mem_tasks hraw h)]
    exact List.nil_subset _
  | false =>
    cases role with
    | statement =>
      rcases near_of_mem_work h with hnear | ⟨-, rfl⟩
      · exact hnear.literalsOf hraw
      · exact List.Subset.refl _
    | expression => exact (near_of_mem_plan h).literalsOf hraw

end Tree

section

variable {file t : Tree} {d : Declarations} {s : State} {role : Role}

theorem Reached.literalsOf (h : Reached file role t s) : Tree.literalsOf false t ⊆ file.literals := by
  induction h with
  | @start role t s h =>
    have hmem := Tree.mem_takeAll h.mem_takenIn
    have hpart : t ∈ file.parts := by
      rcases List.mem_append.1 hmem with hmem | hmem <;> exact List.mem_of_mem_filter hmem
    exact fun x hx => Tree.mem_literalsIn (Tree.mem_children_of_mem_parts hpart) hx
  | step _ hmeets ih =>
    exact List.Subset.trans (Tree.literalsOf_of_mem_tasks hmeets.mem_takenIn) ih

/-- Nodes that are taken as expressions leave one expression each behind. -/
theorem Task.mem_run_takeAll {ts : List Tree} {e : Expr}
    (h : e ∈ ((runAll d (takeAll .expression ts)).run s).1) :
    ∃ c ∈ ts, ∃ u, ((c.meaning d).lower.run u).1 = e := by
  induction ts generalizing s with
  | nil =>
    rw [takeAll, List.map_nil, runAll] at h
    cases h
  | cons c ts ih =>
    rw [takeAll, List.map_cons, runAll, ← takeAll, run] at h
    rcases List.mem_append.1 h with h | h
    · exact ⟨c, List.mem_cons_self, s, (List.mem_singleton.1 h).symm⟩
    · obtain ⟨c', hc', u, hu⟩ := ih h
      exact ⟨c', List.mem_cons_of_mem _ hc', u, hu⟩

/-- **The literal arguments of the calls of a file are literals that may be messages.** -/
theorem exists_literal {id : NodeId} {span : Span} {callee argument : Expr} {args : List Expr}
    (h : .call id span callee args ∈ Expr.nodesOfAll (lowerFile file).1) (hargument : argument ∈ args)
    (hraw : argument.raw?.isSome = true) :
    ∃ c ∈ file.literals, c.span = argument.span ∧ c.raw? = argument.raw? := by
  obtain ⟨t, s, hreached, hlower⟩ := exists_reached h
  rw [Tree.run_lower, Tree.run_finish] at hlower
  obtain ⟨hform, hes⟩ := Tree.of_made_call hlower
  obtain ⟨hkind, happlied, function, htasks⟩ := Tree.of_plan_call hform
  -- the first expression is the callee, the others are made of the arguments
  rw [Tree.prepared, htasks, Task.takeAll, List.map_cons, Task.runAll, ← Task.takeAll, Task.run] at hes
  obtain ⟨-, hargs⟩ := List.cons.inj hes
  rw [← hargs] at hargument
  obtain ⟨c, hc, u, rfl⟩ := Task.mem_run_takeAll hargument
  obtain ⟨hspan, hraw'⟩ := Tree.reads_meaning file.declarations c u
  rw [hraw'] at hraw
  refine ⟨c, hreached.literalsOf ?_, hspan.symm, hraw'.symm⟩
  cases harguments : t.child? .arguments with
  | none => simp [harguments] at hc
  | some arguments =>
    rw [harguments] at hc
    have hpart : c ∈ arguments.parts := List.mem_of_mem_filter hc
    rw [Tree.literalsOf_false, Tree.raw?_isSome_eq_false (.inr hkind), if_neg Bool.false_ne_true, happlied]
    refine Tree.mem_literalsIn (Tree.mem_children_of_child? harguments) ?_
    rw [Tree.field_of_child? harguments, Bool.true_and, decide_eq_true rfl, Tree.literalsOf_true]
    refine Tree.mem_literalsAmong (Tree.mem_children_of_mem_parts hpart) ?_
    rw [if_pos hraw]
    exact List.mem_singleton_self c

end

end Go

/-! ## Replacements for a file -/

open Go

section

variable {source path : String} {file : Tree} {engine : Engine Rule}

theorem Span.Apart.location {s u : Span} (h : s.Apart u) (hs : s.start.offset < s.stop.offset)
    (hu : u.start.offset < u.stop.offset) (path : String) :
    (Location.ofSpan path s).Apart (Location.ofSpan path u) := by
  unfold Span.Apart at h
  simp only [Location.Apart, Edit.stop, Location.ofSpan, Span.length]
  omega

theorem Go.Tree.Placed.fits {t : Tree} (h : t.Placed source) (path : String) :
    Edit.fits source.toList (Location.ofSpan path t.span) = true := by
  have hlt := h.nonempty
  have hstop : Edit.stop (Location.ofSpan path t.span) = t.span.stop.offset := by
    simp only [Edit.stop, Location.ofSpan, Span.length]
    omega
  rw [Edit.fits, hstop]
  exact Text.slice?_isSome (Nat.le_of_lt hlt) h.start h.stop

/-- A message of a file that is one literal is one of the literals that may be messages. -/
theorem literal_of_message {m : Expr}
    (hm : m ∈ SourceUnit.messages ⟨path, (lowerFile file).1⟩ (lowerFile file).2.resolver)
    (hraw : m.raw?.isSome = true) : ∃ c ∈ file.literals, c.span = m.span ∧ c.raw? = m.raw? := by
  obtain ⟨call, hcall, hm⟩ := List.mem_filterMap.1 hm
  obtain ⟨argument, hargument, rfl⟩ := Option.map_eq_some_iff.1 hm
  obtain ⟨id, span, callee, args, f, package, rfl, -, -, -, hexpr⟩ := LoggingApi.of_resolve? hargument
  exact exists_literal (List.mem_of_mem_filter hcall) (List.mem_of_getElem? hexpr) hraw

/-- Two messages that are literals are the same literal at the same place, or lie apart. -/
theorem messages_apart (h : file.WellPlaced source) {m n : Expr}
    (hm : m ∈ SourceUnit.messages ⟨path, (lowerFile file).1⟩ (lowerFile file).2.resolver)
    (hn : n ∈ SourceUnit.messages ⟨path, (lowerFile file).1⟩ (lowerFile file).2.resolver)
    (hmraw : m.raw?.isSome = true) (hnraw : n.raw?.isSome = true) :
    (m.span = n.span ∧ m.raw? = n.raw?) ∨
      (Location.ofSpan path m.span).Apart (Location.ofSpan path n.span) := by
  have hspread := Tree.spread_literals h
  obtain ⟨c, hc, hspan, hraw⟩ := literal_of_message hm hmraw
  obtain ⟨c', hc', hspan', hraw'⟩ := literal_of_message hn hnraw
  rw [← hspan, ← hspan', ← hraw, ← hraw']
  rcases hspread.apart c hc c' hc' with rfl | hapart
  · exact .inl ⟨rfl, rfl⟩
  · exact .inr (hapart.location (hspread.placed c hc).nonempty (hspread.placed c' hc').nonempty path)

/-- Only messages that are literals have replacements, which are at their place. -/
theorem message_of_replacement {m : Expr} {v : Violation} {r : Replacement}
    (hv : v ∈ engine.checkMessage path m) (hr : v.replacement? = some r) :
    m.raw?.isSome = true ∧ r.location = Location.ofSpan path m.span := by
  obtain ⟨configured, -, id, span, raw, text, fixed, hstrip, -, -, -, -, -, -, rfl⟩ :=
    Engine.corrects_of_checkMessage hv hr
  exact ⟨by rw [Expr.raw?_eq_some.2 ⟨id, span, hstrip⟩]; rfl, rfl⟩

variable (h : file.WellPlaced source)
include h

theorem clear_replacements : Edit.Clear source.toList
    (engine.replacements ⟨path, (lowerFile file).1⟩ (lowerFile file).2.resolver) := by
  have hspread := Tree.spread_literals h
  -- a replacement is at the place of one of the literals
  have horigin : ∀ r ∈ engine.replacements ⟨path, (lowerFile file).1⟩ (lowerFile file).2.resolver,
      ∃ c ∈ file.literals, r.location = Location.ofSpan path c.span := by
    intro r hr
    obtain ⟨v, hv, hr⟩ := List.mem_filterMap.1 hr
    rw [Engine.check_eq] at hv
    obtain ⟨m, hm, hv⟩ := List.mem_flatMap.1 hv
    obtain ⟨hraw, hplace⟩ := message_of_replacement hv hr
    obtain ⟨c, hc, hspan, -⟩ := literal_of_message hm hraw
    exact ⟨c, hc, by rw [hplace, hspan]⟩
  refine ⟨fun r hr => ?_, fun r hr => ?_, fun r hr s hs => ?_⟩
  · obtain ⟨c, hc, hplace⟩ := horigin r hr
    rw [hplace]
    exact (hspread.placed c hc).fits path
  · obtain ⟨c, hc, hplace⟩ := horigin r hr
    have hlt := (hspread.placed c hc).nonempty
    rw [hplace]
    exact Nat.sub_pos_of_lt hlt
  · obtain ⟨c, hc, hplace⟩ := horigin r hr
    obtain ⟨c', hc', hplace'⟩ := horigin s hs
    rw [hplace, hplace']
    rcases hspread.apart c hc c' hc' with rfl | hapart
    · exact .inl rfl
    · exact .inr (hapart.location (hspread.placed c hc).nonempty (hspread.placed c' hc').nonempty path)

/-- The first replacement at the place of a message is its earliest. -/
theorem find?_earliest {m : Expr} {first : Replacement}
    (hm : m ∈ SourceUnit.messages ⟨path, (lowerFile file).1⟩ (lowerFile file).2.resolver)
    (hfirst : engine.earliest? path m = some first) :
    (engine.replacements ⟨path, (lowerFile file).1⟩ (lowerFile file).2.resolver).find?
      (fun r => r.location = Location.ofSpan path m.span) = some first := by
  rw [Engine.replacements_eq]
  refine Engine.find?_replacements (fun n hn hplace r hr => ?_) ⟨m, hm, rfl, hfirst⟩
  have hraw : ∀ {e : Expr} {r : Replacement}, engine.earliest? path e = some r →
      e.raw?.isSome = true := by
    intro e r hr
    obtain ⟨configured, -, hr⟩ := List.exists_of_findSome?_eq_some hr
    exact Engine.raw?_of_replacement? hr
  rcases messages_apart h hn hm (hraw hr) (hraw hfirst) with ⟨hspan, hraw'⟩ | hapart
  · -- another message at the place is the same literal, for which the rules say the same
    have hsame : engine.earliest? path n = engine.earliest? path m := by
      simp only [Engine.earliest?, ConfiguredRule.replacement?, hspan, hraw']
    exact Option.some.inj (hr.symm.trans (hsame.trans hfirst))
  · obtain ⟨c, hc, hspan, -⟩ := literal_of_message hm (hraw hfirst)
    have hlt := ((Tree.spread_literals h).placed c hc).nonempty
    rw [hplace] at hapart
    simp only [Location.Apart, Edit.stop, Location.ofSpan, Span.length, ← hspan] at hapart
    omega

/-- **Replacements of one file never clash, except for one message.** In a file whose nodes are well
placed, two replacements are apart, or they are for the same literal at the same place. All of them
fit the text. For each message that has some, exactly one is made, the one of the earliest rule, and
no other is made. -/
theorem replacements_made (engine : Engine Rule) (path : String) :
    let unit : SourceUnit := ⟨path, (lowerFile file).1⟩
    let types := (lowerFile file).2.resolver
    let replacements := engine.replacements unit types
    let made := (Edit.apply source replacements).applied
    (∀ v ∈ engine.check unit types, ∀ w ∈ engine.check unit types, ∀ r s,
      v.replacement? = some r → w.replacement? = some s → r.location.Apart s.location ∨
        r.location = s.location ∧ ∃ m ∈ unit.messages types, ∃ n ∈ unit.messages types,
          v ∈ engine.checkMessage path m ∧ w ∈ engine.checkMessage path n ∧
          m.span = n.span ∧ m.raw? = n.raw?) ∧
    (∀ r ∈ replacements, Edit.fits source.toList r.location = true) ∧
    (∀ m ∈ unit.messages types, (∃ v ∈ engine.checkMessage path m, v.isFixable = true) →
      ∃ r, engine.earliest? path m = some r ∧ ∃ k ∈ made, replacements[k]? = some r ∧
        ∀ j ∈ made, ∀ s, replacements[j]? = some s →
          s.location = Location.ofSpan path m.span → j = k) ∧
    ∀ k ∈ made, ∃ m ∈ unit.messages types, ∃ r, replacements[k]? = some r ∧
      engine.earliest? path m = some r := by
  intro unit types replacements made
  have hclear : Edit.Clear source.toList replacements := clear_replacements h
  refine ⟨?_, hclear.fits, ?_, ?_⟩
  · intro v hv w hw r s hr hs
    rw [Engine.check_eq] at hv hw
    obtain ⟨m, hm, hv⟩ := List.mem_flatMap.1 hv
    obtain ⟨n, hn, hw⟩ := List.mem_flatMap.1 hw
    obtain ⟨hmraw, hrplace⟩ := message_of_replacement hv hr
    obtain ⟨hnraw, hsplace⟩ := message_of_replacement hw hs
    rw [hrplace, hsplace]
    rcases messages_apart h hm hn hmraw hnraw with ⟨hspan, hraw⟩ | hapart
    · exact .inr ⟨by rw [hspan], m, hm, n, hn, hv, hw, hspan, hraw⟩
    · exact .inl hapart
  · rintro m hm ⟨v, hv, hfixable⟩
    obtain ⟨r', hr'⟩ := Option.isSome_iff_exists.1 hfixable
    obtain ⟨r, hr⟩ := Engine.exists_earliest? hv hr'
    have hfind := find?_earliest h hm hr
    obtain ⟨k, hk⟩ := Edit.exists_isFirst hfind
    have hplace : r.location = Location.ofSpan path m.span := by simpa using List.find?_some hfind
    refine ⟨r, hr, k, (Edit.mem_applied hclear).2 ⟨r, hk⟩, hk.getElem?, fun j hj s hs hsplace => ?_⟩
    obtain ⟨s', hj⟩ := (Edit.mem_applied hclear).1 hj
    obtain rfl := Option.some.inj (hs.symm.trans hj.getElem?)
    have heq := hj.unique hk (hsplace.trans hplace.symm)
    exact (Prod.mk.inj heq).2
  · intro k hk
    obtain ⟨r, hk⟩ := (Edit.mem_applied hclear).1 hk
    obtain ⟨v, hv, hr⟩ := List.mem_filterMap.1 (List.mem_of_getElem? hk.getElem?)
    rw [Engine.check_eq] at hv
    obtain ⟨m, hm, hv⟩ := List.mem_flatMap.1 hv
    obtain ⟨first, hfirst⟩ := Engine.exists_earliest? hv hr
    have hfind := find?_earliest h hm hfirst
    rw [← (message_of_replacement hv hr).2] at hfind
    obtain rfl := Option.some.inj (hk.find?.symm.trans hfind)
    exact ⟨m, hm, r, hk.getElem?, hfirst⟩

end

/-- A message that two rules object to. -/
def capitalAndMark : String :=
  "package p\nimport \"log/slog\"\nfunc f() \x7b slog.Info(\"Hello!\") \x7d"

theorem replacements_made_twoRules : ∃ file, Tree.ofSource? capitalAndMark = some file ∧
    let engine : Engine Rule := ⟨[⟨.lowercaseStart, .warning⟩, ⟨.noSpecialChars, .warning⟩]⟩
    let replacements := engine.replacements ⟨"p.go", (lowerFile file).1⟩ (lowerFile file).2.resolver
    replacements.length = 2 ∧ ∃ r k, r.newText = "\"hello!\"" ∧ replacements[k]? = some r ∧
      k ∈ (Edit.apply capitalAndMark replacements).applied := by
  let engine : Engine Rule := ⟨[⟨.lowercaseStart, .warning⟩, ⟨.noSpecialChars, .warning⟩]⟩
  have hfile : ((Tree.ofSource? capitalAndMark).any fun file => decide (file.WellPlaced capitalAndMark) &&
      decide ((engine.replacements ⟨"p.go", (lowerFile file).1⟩
        (lowerFile file).2.resolver).length = 2) &&
      (SourceUnit.messages ⟨"p.go", (lowerFile file).1⟩ (lowerFile file).2.resolver).any fun m =>
        (engine.checkMessage "p.go" m).any Violation.isFixable &&
          (engine.earliest? "p.go" m).any fun r => r.newText = "\"hello!\"") = true := by
    rw [Tree.ofSource?_eq]
    decide +kernel
  obtain ⟨file, hfile, hall⟩ := (Option.any_eq_true _ _).1 hfile
  simp only [Bool.and_eq_true, decide_eq_true_eq] at hall
  obtain ⟨⟨hplaced, hlength⟩, hmessage⟩ := hall
  obtain ⟨m, hm, hboth⟩ := List.any_eq_true.1 hmessage
  obtain ⟨hfixable, hearliest⟩ := Bool.and_eq_true_iff.1 hboth
  obtain ⟨r, hr, hk⟩ := (replacements_made hplaced engine "p.go").2.2.1 m hm
    (List.any_eq_true.1 hfixable)
  obtain ⟨k, hmade, hat, -⟩ := hk
  rw [hr] at hearliest
  exact ⟨file, hfile, hlength, r, k, of_decide_eq_true hearliest, hat, hmade⟩

end LogStyle
