import LogStyle.Proofs.Leftovers
import LogStyle.Proofs.Verdict

/-!
# Which replacements are made

Replacements are considered by their start and accepted unless they overlap what was accepted before.
Where any two of them are at one place or apart, the first of each place is made and no other.

* `Location.Apart`: stretches that have no byte in common.
* `Edit.Clear`: replacements that fit a text, two of which are at one place or apart.
* `Edit.mem_applied`: **the first replacement of each place is made, and no other.**
* `Engine.earliest?`: the replacement of the first rule that has one for a message.
* `Engine.find?_replacements`: the first replacement at the place of a message is the earliest.
-/

namespace LogStyle

/-- Stretches that have no byte in common. -/
def Location.Apart (l m : Location) : Prop := Edit.stop l ≤ m.offset ∨ Edit.stop m ≤ l.offset

namespace Edit

variable {source : List Char} {covered : Nat} {l : List (Replacement × Nat)} {a : Replacement × Nat}
  {rs : List Replacement}

/-- Replacements that fit a text and cover some of it. Two of them are at one place or apart. -/
structure Clear (source : List Char) (rs : List Replacement) : Prop where
  fits : ∀ r ∈ rs, Edit.fits source r.location = true
  nonempty : ∀ r ∈ rs, 0 < r.location.length
  apart : ∀ r ∈ rs, ∀ s ∈ rs, r.location = s.location ∨ r.location.Apart s.location

/-- The replacement is the first one at its place. -/
def IsFirst (l : List (Replacement × Nat)) (a : Replacement × Nat) : Prop :=
  l.find? (fun b => b.1.location = a.1.location) = some a

theorem isFirst_cons {x : Replacement × Nat} : IsFirst (x :: l) a ↔
    a = x ∨ (a.1.location ≠ x.1.location ∧ IsFirst l a) := by
  unfold IsFirst
  by_cases hx : x.1.location = a.1.location
  · rw [List.find?_cons_of_pos (by simp [hx])]
    constructor
    · intro h
      exact .inl (Option.some.inj h).symm
    · rintro (rfl | ⟨hne, -⟩)
      · rfl
      · exact absurd hx.symm hne
  · rw [List.find?_cons_of_neg (by simp [hx])]
    constructor
    · exact fun h => .inr ⟨Ne.symm hx, h⟩
    · rintro (rfl | ⟨-, h⟩)
      · exact absurd rfl hx
      · exact h

/-- Of replacements by their start, the first of each place is accepted. Those at the place that was
covered last, if there is one, are left out. -/
theorem mem_accept (done : Option Location) (hclear : Clear source (l.map (·.1)))
    (hsorted : l.Pairwise fun a b => a.1.location.offset ≤ b.1.location.offset)
    (hdone : ∀ p ∈ done, p.offset < covered)
    (hcovered : ∀ b ∈ l, b.1.location ∈ done ∨ covered ≤ b.1.location.offset) :
    a ∈ accept source covered l ↔ a.1.location ∉ done ∧ IsFirst l a := by
  induction l generalizing covered done with
  | nil => simp [accept, IsFirst]
  | cons x l ih =>
    obtain ⟨hfits, hnonempty, hapart⟩ := hclear
    simp only [List.map_cons, List.mem_cons, forall_eq_or_imp] at hfits hnonempty hapart hcovered
    obtain ⟨hhead, htail⟩ := List.pairwise_cons.1 hsorted
    have hclear' : Clear source (l.map (·.1)) :=
      ⟨hfits.2, hnonempty.2, fun r hr s hs => (hapart.2 r hr).2 s hs⟩
    rw [isFirst_cons]
    by_cases hx : x.1.location ∈ done
    · -- the place is covered already
      have hlt := hdone _ hx
      have hskip : accept source covered (x :: l) = accept source covered l := by
        rw [accept, if_neg]
        simp only [Bool.and_eq_true, decide_eq_true_eq, not_and]
        omega
      rw [hskip, ih done hclear' htail hdone hcovered.2]
      constructor
      · rintro ⟨hnot, hfirst⟩
        exact ⟨hnot, .inr ⟨fun heq => hnot (heq ▸ hx), hfirst⟩⟩
      · rintro ⟨hnot, rfl | ⟨-, hfirst⟩⟩
        · exact absurd hx hnot
        · exact ⟨hnot, hfirst⟩
    · have hle := hcovered.1.resolve_left hx
      have hmake : accept source covered (x :: l) = x :: accept source (stop x.1.location) l := by
        rw [accept, if_pos]
        simp [hfits.1, hle]
      have hpos := hnonempty.1
      -- what comes later is at the place that was just covered, or behind it
      have hbehind : ∀ b ∈ l, b.1.location ∈ some x.1.location ∨
          stop x.1.location ≤ b.1.location.offset := by
        intro b hb
        rcases (hapart.1.2) b.1 (List.mem_map_of_mem hb) with heq | hbehind | hbefore
        · exact .inl (by simp [heq])
        · exact .inr hbehind
        · have hstart := hhead b hb
          have hposb := hnonempty.2 b.1 (List.mem_map_of_mem hb)
          unfold stop at hbefore
          omega
      have hstart : ∀ p ∈ some x.1.location, p.offset < stop x.1.location := by
        simpa [stop] using hpos
      have hlater := ih (some x.1.location) hclear' htail hstart hbehind
      rw [hmake, List.mem_cons, hlater]
      constructor
      · rintro (rfl | ⟨hne, hfirst⟩)
        · exact ⟨hx, .inl rfl⟩
        · have hne' : a.1.location ≠ x.1.location := by simpa [eq_comm] using hne
          refine ⟨fun hmem => ?_, .inr ⟨hne', hfirst⟩⟩
          have hlt := hdone _ hmem
          have hstart := hhead a (List.mem_of_find?_eq_some hfirst)
          omega
      · rintro ⟨-, rfl | ⟨hne, hfirst⟩⟩
        · exact .inl rfl
        · exact .inr ⟨by simpa [eq_comm] using hne, hfirst⟩

/-- Sorting keeps the order of elements that need not be told apart. -/
theorem filter_mergeSort {α : Type} {le : α → α → Bool} {p : α → Bool}
    (htrans : ∀ a b c, le a b = true → le b c = true → le a c = true)
    (htotal : ∀ a b, (le a b || le b a) = true)
    (h : ∀ a b, p a = true → p b = true → le a b = true) (l : List α) :
    (l.mergeSort le).filter p = l.filter p := by
  have hpairwise : (l.filter p).Pairwise (le · · = true) := by
    rw [List.pairwise_iff_getElem]
    intro i j hi hj _
    exact h _ _ (List.mem_filter.1 (List.getElem_mem hi)).2 (List.mem_filter.1 (List.getElem_mem hj)).2
  have hsublist : (l.filter p).Sublist (l.mergeSort le) :=
    List.sublist_mergeSort htrans htotal hpairwise List.filter_sublist
  have hfilter := hsublist.filter p
  simp only [List.filter_filter, Bool.and_self] at hfilter
  have hlength := ((List.mergeSort_perm l le).filter p).length_eq
  exact (hfilter.eq_of_length hlength.symm).symm

theorem le_offset_trans (a b c : Replacement × Nat)
    (h : decide (a.1.location.offset ≤ b.1.location.offset) = true)
    (h' : decide (b.1.location.offset ≤ c.1.location.offset) = true) :
    decide (a.1.location.offset ≤ c.1.location.offset) = true :=
  decide_eq_true (Nat.le_trans (of_decide_eq_true h) (of_decide_eq_true h'))

theorem le_offset_total (a b : Replacement × Nat) :
    (decide (a.1.location.offset ≤ b.1.location.offset) ||
      decide (b.1.location.offset ≤ a.1.location.offset)) = true := by
  simp only [Bool.or_eq_true, decide_eq_true_eq]
  exact Nat.le_total _ _

theorem find?_inOrder (place : Location) :
    (inOrder rs).find? (fun b => b.1.location = place) =
      rs.zipIdx.find? fun b => b.1.location = place := by
  rw [← List.head?_filter, ← List.head?_filter, inOrder,
    filter_mergeSort le_offset_trans le_offset_total]
  · simp only [decide_eq_true_eq]
    rintro a b rfl hb
    exact Nat.le_of_eq (by rw [hb])

theorem pairwise_inOrder : (inOrder rs).Pairwise fun a b =>
    a.1.location.offset ≤ b.1.location.offset := by
  refine (List.pairwise_mergeSort ?_ ?_ rs.zipIdx).imp of_decide_eq_true
  · exact le_offset_trans
  · exact le_offset_total

/-- **The first replacement of each place is made, and no other.** -/
theorem mem_applied {source : String} (h : Clear source.toList rs) {k : Nat} :
    k ∈ (apply source rs).applied ↔ ∃ r, IsFirst rs.zipIdx (r, k) := by
  have hclear : Clear source.toList ((inOrder rs).map (·.1)) := by
    have hsubset : ∀ r ∈ (inOrder rs).map (·.1), r ∈ rs := by
      intro r hr
      obtain ⟨a, ha, rfl⟩ := List.mem_map.1 hr
      exact List.mem_of_getElem? (mem_inOrder.1 ha)
    exact ⟨fun r hr => h.fits r (hsubset r hr), fun r hr => h.nonempty r (hsubset r hr),
      fun r hr s hs => h.apart r (hsubset r hr) s (hsubset s hs)⟩
  have haccept : ∀ a, a ∈ accept source.toList 0 (inOrder rs) ↔ IsFirst rs.zipIdx a := by
    intro a
    rw [mem_accept none hclear pairwise_inOrder (by simp) (by simp), IsFirst,
      find?_inOrder]
    simp [IsFirst]
  simp [apply, haccept]

/-- The first replacement at a place is made, if there is one. -/
theorem exists_isFirst {place : Location} {r : Replacement}
    (h : rs.find? (fun s => s.location = place) = some r) : ∃ k, IsFirst rs.zipIdx (r, k) := by
  have hplace : r.location = place := by simpa using List.find?_some h
  rw [← List.zipIdx_map_fst 0 rs, List.find?_map, Option.map_eq_some_iff] at h
  obtain ⟨⟨r', k⟩, hfirst, rfl⟩ := h
  exact ⟨k, by rw [IsFirst, hplace]; exact hfirst⟩

theorem IsFirst.find? {r : Replacement} {k : Nat} (h : IsFirst rs.zipIdx (r, k)) :
    rs.find? (fun s => s.location = r.location) = some r := by
  rw [← List.zipIdx_map_fst 0 rs, List.find?_map, Option.map_eq_some_iff]
  exact ⟨(r, k), h, rfl⟩

theorem IsFirst.getElem? {r : Replacement} {k : Nat} (h : IsFirst rs.zipIdx (r, k)) :
    rs[k]? = some r :=
  List.mem_zipIdx_iff_getElem?.1 (List.mem_of_find?_eq_some h)

/-- There is only one first replacement at a place. -/
theorem IsFirst.unique {b : Replacement × Nat} (ha : IsFirst l a) (hb : IsFirst l b)
    (h : a.1.location = b.1.location) : a = b := by
  rw [IsFirst, h] at ha
  exact Option.some.inj (ha.symm.trans hb)

end Edit

/-! ## Rules and their replacements -/

/-- The replacement that a rule has for a message. Only a message that is one literal has any. -/
def ConfiguredRule.replacement? (file : String) (message : Expr) (configured : ConfiguredRule Rule) :
    Option Replacement := do
  let text ← message.raw?.bind Literal.value?
  let finding ← (configured.rule.check? text).filter fun _ => configured.rule.kind.appliesTo 0
  let fixed ← finding.proposal?
  return ⟨Location.ofSpan file message.span, Literal.quote fixed⟩

namespace Engine

variable {engine : Engine Rule} {file : String} {message : Expr} {unit : SourceUnit} {types : Resolver}

/-- The replacement of the earliest rule that has one for a message. -/
def earliest? (engine : Engine Rule) (file : String) (message : Expr) : Option Replacement :=
  engine.rules.findSome? (·.replacement? file message)

/-- The replacements for a message are those of the rules, in their order. -/
theorem replacements_checkMessage (engine : Engine Rule) (file : String) (message : Expr) :
    (engine.checkMessage file message).filterMap Violation.replacement? =
      engine.rules.filterMap (·.replacement? file message) := by
  cases hraw : message.raw? with
  | none =>
    -- a message that is not one literal is not replaced
    have hliteral : message.isLiteral = false := by
      rw [Bool.eq_false_iff]
      intro hliteral
      obtain ⟨id, span, raw, hstrip⟩ := Expr.isLiteral_iff.1 hliteral
      have hsome : message.raw? = some raw := Expr.raw?_eq_some.2 ⟨id, span, hstrip⟩
      rw [hraw] at hsome
      cases hsome
    have hrules : engine.rules.filterMap (·.replacement? file message) = [] := by
      simp [ConfiguredRule.replacement?, hraw]
    rw [hrules, List.filterMap_eq_nil_iff]
    intro v hv
    obtain ⟨text, index, -, hv⟩ := mem_checkMessage.1 hv
    obtain ⟨configured, -, -, finding, -, rfl⟩ := mem_checkFragment.1 hv
    rw [Violation.replacement?_ofFinding, hliteral]
    rfl
  | some raw =>
    obtain ⟨id, span, hstrip⟩ := Expr.raw?_eq_some.1 hraw
    have hliteral : Message.isReplaceable message = true :=
      Expr.isLiteral_iff.2 ⟨id, span, raw, hstrip⟩
    cases hvalue : Literal.value? raw with
    | none =>
      have hfragments : Message.fragments message = [] := by
        rw [Message.fragments_of_stripParens hstrip, hvalue]
        rfl
      simp [checkMessage, hfragments, ConfiguredRule.replacement?, hraw, hvalue]
    | some text =>
      rw [checkMessage_literal hstrip hvalue, checkFragment, List.filterMap_filterMap]
      congr 1
      funext configured
      simp only [ConfiguredRule.replacement?, hraw, Option.bind_eq_bind, Option.bind_some, hvalue,
        hliteral, Rule.check?_eq, Rule.appliesTo_eq]
      cases hcheck : configured.rule.check? text with
      | none => simp
      | some finding =>
        by_cases happlies : configured.rule.kind.appliesTo 0 = true
        · simp only [happlies, if_true, Option.map_some, Option.bind_some, Option.filter_some,
            Violation.replacement?_ofFinding]
          cases finding.proposal? <;> rfl
        · simp [happlies, Option.filter_some]

theorem location_of_replacement? {configured : ConfiguredRule Rule} {r : Replacement}
    (h : configured.replacement? file message = some r) :
    r.location = Location.ofSpan file message.span := by
  unfold ConfiguredRule.replacement? at h
  simp only [Option.bind_eq_bind, Option.bind_eq_some_iff] at h
  obtain ⟨text, -, finding, -, fixed, -, h⟩ := h
  obtain rfl := Option.some.inj h
  rfl

theorem raw?_of_replacement? {configured : ConfiguredRule Rule} {r : Replacement}
    (h : configured.replacement? file message = some r) : message.raw?.isSome = true := by
  unfold ConfiguredRule.replacement? at h
  simp only [Option.bind_eq_bind, Option.bind_eq_some_iff] at h
  obtain ⟨text, ⟨raw, hraw, -⟩, -⟩ := h
  rw [hraw]
  rfl

/-- The violations of a file, message by message. -/
theorem check_eq (engine : Engine Rule) (unit : SourceUnit) (types : Resolver) :
    engine.check unit types = (unit.messages types).flatMap (engine.checkMessage unit.path) := by
  rw [check, SourceUnit.messages]
  induction unit.calls with
  | nil => rfl
  | cons call calls ih =>
    rw [List.flatMap_cons, ih, checkCall, List.filterMap_cons]
    cases LoggingApi.resolve? types call <;> rfl

/-- The replacements for a file, message by message and rule by rule. -/
def replacements (engine : Engine Rule) (unit : SourceUnit) (types : Resolver) : List Replacement :=
  (engine.check unit types).filterMap Violation.replacement?

theorem replacements_eq (engine : Engine Rule) (unit : SourceUnit) (types : Resolver) :
    engine.replacements unit types = (unit.messages types).flatMap fun message =>
      engine.rules.filterMap (·.replacement? unit.path message) := by
  rw [replacements, check_eq, List.filterMap_flatMap]
  simp only [replacements_checkMessage]

/-- The first replacement at a place is the earliest one for the messages there, if all of those that
have any agree on it. -/
theorem find?_replacements {messages : List Expr} {place : Location} {first : Replacement}
    (hagree : ∀ m ∈ messages, Location.ofSpan file m.span = place →
      ∀ r, engine.earliest? file m = some r → r = first)
    (hsome : ∃ m ∈ messages, Location.ofSpan file m.span = place ∧
      engine.earliest? file m = some first) :
    (messages.flatMap fun m => engine.rules.filterMap (·.replacement? file m)).find?
      (fun r => r.location = place) = some first := by
  -- the replacements for one message are all at its place
  have hblock : ∀ m, (engine.rules.filterMap (·.replacement? file m)).find?
      (fun r => r.location = place) =
        if Location.ofSpan file m.span = place then engine.earliest? file m else none := by
    intro m
    have hplace : ∀ r ∈ engine.rules.filterMap (·.replacement? file m),
        r.location = Location.ofSpan file m.span := by
      intro r hr
      obtain ⟨configured, -, hr⟩ := List.mem_filterMap.1 hr
      exact location_of_replacement? hr
    split
    · rename_i hm
      rw [earliest?, ← List.head?_filterMap, ← List.head?_filter, List.filter_eq_self.2]
      intro r hr
      simp [hplace r hr, hm]
    · rename_i hm
      rw [List.find?_eq_none]
      intro r hr
      simp [hplace r hr, hm]
  induction messages with
  | nil =>
    obtain ⟨m, hm, -⟩ := hsome
    cases hm
  | cons m ms ih =>
    have hrest : ∀ n ∈ ms, Location.ofSpan file n.span = place →
        ∀ r, engine.earliest? file n = some r → r = first :=
      fun n hn => hagree n (List.mem_cons_of_mem _ hn)
    obtain ⟨n, hn, hplace, hearliest⟩ := hsome
    rw [List.flatMap_cons, List.find?_append, hblock]
    by_cases hm : Location.ofSpan file m.span = place
    · rw [if_pos hm]
      cases hfirst : engine.earliest? file m with
      | some r => rw [Option.some_or, hagree m List.mem_cons_self hm r hfirst]
      | none =>
        rw [Option.none_or]
        rcases List.mem_cons.1 hn with rfl | hn
        · rw [hfirst] at hearliest
          cases hearliest
        · exact ih hrest ⟨n, hn, hplace, hearliest⟩
    · rw [if_neg hm, Option.none_or]
      rcases List.mem_cons.1 hn with rfl | hn
      · exact absurd hplace hm
      · exact ih hrest ⟨n, hn, hplace, hearliest⟩

/-- A message with some replacement has an earliest one. -/
theorem exists_earliest? {v : Violation} {r : Replacement} (hv : v ∈ engine.checkMessage file message)
    (hr : v.replacement? = some r) : ∃ first, engine.earliest? file message = some first := by
  have hmem : r ∈ engine.rules.filterMap (·.replacement? file message) := by
    rw [← replacements_checkMessage]
    exact List.mem_filterMap.2 ⟨v, hv, hr⟩
  rw [earliest?, ← List.head?_filterMap]
  exact Option.isSome_iff_exists.1 (List.isSome_head?.2 (List.ne_nil_of_mem hmem))

end Engine

end LogStyle
