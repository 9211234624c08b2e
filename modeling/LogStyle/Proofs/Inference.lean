import LogStyle.Proofs.Shadowing

/-!
# Names take the types of their values

Names that are declared without a type get the types of the values that they are declared with: each
that of its own value, or each one of the results of a single call. Among the names of constants the
commas between them are counted as well, so that only the first constant is matched with its own value.

* `Tree.Spells`: the names that a declaration writes.
* `Gives`: the types that values give to a number of names.
* `Tree.place`: which of these types a name is matched with.
* `valueTypes_of_gives`: the types that are looked up are those that the values give.
* `Tree.innermost_visit`: **each name is bound in the innermost block to the type at its place.**
* `names_inferred`: **the names get the types of their own values, evaluated where the declaration
  stands, unless they are constants and the types at the other places differ** (`constants_shifted`).
-/

namespace LogStyle.Go

open Lower

/-! ## The innermost block -/

namespace Scopes

/-- The names bound in the innermost block. -/
def innermost (s : Scopes) : Frame := s.nested.head?.getD s.file

variable {s : Scopes} {name : String} {type : Option StaticType}

theorem innermost_declare (s : Scopes) (name other : String) (type : Option StaticType) :
    (s.declare other type).innermost.get? name =
      if name = other ∧ other ≠ "_" then some type else s.innermost.get? name := by
  unfold declare
  by_cases hblank : other = "_"
  · simp [hblank]
  · cases hnested : s.nested <;> simp [innermost, hblank, hnested]

/-- Of names that are bound one after the other, the last binding of a name counts. -/
theorem innermost_replay_binds (s : Scopes) (hname : name ≠ "_") (before : List Binding)
    {after : List Binding} (hlater : name ∉ after.map (·.1)) :
    (s.replay (Step.binds (before ++ (name, type) :: after))).innermost.get? name = some type := by
  have hkept : ∀ (bs : List Binding) (u : Scopes), name ∉ bs.map (·.1) →
      (u.replay (Step.binds bs)).innermost.get? name = u.innermost.get? name := by
    intro bs
    induction bs with
    | nil => exact fun u _ => rfl
    | cons b bs ih =>
      intro u hb
      rw [List.map_cons, List.mem_cons, not_or] at hb
      have hrest := ih (u.declare b.1 b.2) hb.2
      rw [innermost_declare, if_neg fun h => hb.1 h.1] at hrest
      exact hrest
  rw [replay_binds_append]
  generalize s.replay (Step.binds before) = u
  refine (hkept after (u.declare name type) hlater).trans ?_
  rw [innermost_declare, if_pos ⟨rfl, hname⟩]

end Scopes

/-! ## Names and values -/

namespace Tree

/-- The names that a declaration writes. Between the names of constants there are commas, in the role
of names as well. -/
def Spells (t : Tree) (names : List String) : Prop :=
  match t.kind with
  | .shortVarDeclaration => t.namesIn .left = names
  | .varSpec => t.childTexts .name = names
  | .constSpec => t.childTexts .name = names.intersperse "," ∧ "," ∉ names
  | _ => False

/-- The values of a declaration. -/
def values (t : Tree) : List Tree :=
  t.listedIn (if t.kind = .shortVarDeclaration then .right else .value)

/-- The place of a name among all that is counted as a name. -/
def place (t : Tree) (i : Nat) : Nat := if t.kind = .constSpec then 2 * i else i

end Tree

/-- The types that values give to a number of names: that of a value to each, or those of the results
of one call. -/
inductive Gives (s : State) : Nat → List Expr → List (Option StaticType) → Prop where
  | each {values : List Expr} :
      Gives s values.length values (values.map fun e => s.table.types.get? e.id)
  | results {n : Nat} {call : Expr} {types : List StaticType} : 1 < n →
      s.results.get? call.stripParens.id = some types → Gives s n [call] (types.map some)

/-- The types that are looked up are those that the values give, even if more is counted as a name. -/
theorem valueTypes_of_gives {s : State} {n slots : Nat} {values : List Expr}
    {types : List (Option StaticType)} (h : Gives s n values types) (hle : n ≤ slots)
    (hone : n = 1 → slots = 1) {k : Nat} (hk : k < slots) :
    ((Meaning.valueTypes s values slots)[k]?).join = types[k]?.join := by
  cases h with
  | each =>
    match values with
    | [] => rfl
    | [single] =>
      have hslots := hone rfl
      simp [Meaning.valueTypes, hslots]
    | _ :: _ :: _ => rfl
  | @results _ call types hn hresults =>
    have hslots : slots > 1 := Nat.lt_of_lt_of_le hn hle
    simp only [Meaning.valueTypes, if_pos hslots, hresults, Option.getD_some, List.getElem?_map,
      List.getElem?_range hk, Option.map_some, Option.join_some]
    cases types[k]? <;> rfl

namespace Tree

variable {d : Declarations} {t : Tree} {names : List String} {s : State} {i : Nat} {name : String}

theorem work_of_spells (h : t.Spells names)
    (hinferred : t.kind = .shortVarDeclaration ∨ t.child? .type = none) (d : Declarations) :
    t.work d = [.define t.boundNames none t.values] := by
  have htype : t.child? .type = none → t.typeIn d = none := fun h => by rw [typeIn, h]; rfl
  unfold Spells at h
  unfold work boundNames values
  generalize t.kind = kind at h hinferred
  cases kind
  case shortVarDeclaration => rfl
  case varSpec => simp [htype (hinferred.resolve_left (by simp))]
  case constSpec => simp [htype (hinferred.resolve_left (by simp))]
  all_goals exact h.elim

/-- What is counted as a name: the names, and with constants the commas between them. -/
theorem boundNames_of_spells (h : t.Spells names) :
    (t.kind ≠ .constSpec ∧ t.boundNames = names) ∨
      (t.kind = .constSpec ∧ t.boundNames = names.intersperse "," ∧ "," ∉ names) := by
  unfold Spells at h
  unfold boundNames
  generalize t.kind = kind at h
  cases kind
  case shortVarDeclaration => exact .inl ⟨by simp, h⟩
  case varSpec => exact .inl ⟨by simp, h⟩
  case constSpec => exact .inr ⟨rfl, h⟩
  all_goals exact h.elim

theorem length_boundNames (h : t.Spells names) :
    names.length ≤ t.boundNames.length ∧ (names.length = 1 → t.boundNames.length = 1) := by
  rcases boundNames_of_spells h with ⟨-, hnames⟩ | ⟨-, hnames, -⟩
  · rw [hnames]
    exact ⟨Nat.le_refl _, id⟩
  · rw [hnames, List.length_intersperse]
    omega

theorem getElem?_place (h : t.Spells names) (i : Nat) : t.boundNames[t.place i]? = names[i]? := by
  rcases boundNames_of_spells h with ⟨hkind, hnames⟩ | ⟨hkind, hnames, -⟩
  · rw [place, if_neg hkind, hnames]
  · rw [place, if_pos hkind, hnames, List.getElem?_intersperse_two_mul]

/-- A name that is not written again is not counted again either. -/
theorem notMem_drop_place (h : t.Spells names) (hmem : name ∈ names)
    (hlater : ∀ j, i < j → names[j]? ≠ some name) :
    name ∉ t.boundNames.drop (t.place i + 1) := by
  intro hdrop
  obtain ⟨k, hk⟩ := List.mem_iff_getElem?.1 hdrop
  rw [List.getElem?_drop] at hk
  rcases boundNames_of_spells h with ⟨hkind, hnames⟩ | ⟨hkind, hnames, hcomma⟩
  · rw [place, if_neg hkind, hnames] at hk
    exact hlater _ (by omega) hk
  · rw [place, if_pos hkind, hnames] at hk
    -- names stand at even places, and commas between them
    obtain ⟨j, hj | hj⟩ : ∃ j, 2 * i + 1 + k = 2 * j ∨ 2 * i + 1 + k = 2 * j + 1 :=
      ⟨(2 * i + 1 + k) / 2, by omega⟩
    · rw [hj, List.getElem?_intersperse_two_mul] at hk
      exact hlater j (by omega) hk
    · rw [hj] at hk
      obtain ⟨hlt, -⟩ := List.getElem?_eq_some_iff.1 hk
      rw [List.length_intersperse] at hlt
      rw [List.getElem?_intersperse_two_mul_add_one (by omega)] at hk
      exact hcomma (Option.some.inj hk ▸ hmem)

end Tree

/-! ## What the names are bound to -/

namespace Task

variable {d : Declarations} {names : List String} {declared : Option StaticType}
  {values : List Expr × State}

theorem getElem?_defined {k : Nat} {name : String} (h : names[k]? = some name) :
    (defined names declared values)[k]? = some (name,
      declared.or ((Meaning.valueTypes values.2 values.1 names.length)[k]?).join) := by
  have hlt := (List.getElem?_eq_some_iff.1 h).1
  rw [defined, List.getElem?_zip_eq_some, List.getElem?_map, List.getElem?_range hlt]
  exact ⟨h, rfl⟩

/-- Values are evaluated one after the other, with the same names in sight. -/
theorem forall₂_takeAll (d : Declarations) (ts : List Tree) (s : State) :
    List.Forall₂ (fun t e => ∃ u, Meets d (takeAll .expression ts) s .expression t u ∧
      u.scopes = s.scopes ∧ ((t.meaning d).lower.run u).1 = e)
      ts ((runAll d (takeAll .expression ts)).run s).1 := by
  induction ts generalizing s with
  | nil => exact .nil
  | cons t ts ih =>
    have hscopes := Tree.scoped_does d .expression t s
    rw [runAll_takeAll_cons]
    refine .cons ⟨s, .here, rfl, rfl⟩ ((ih _).imp fun c e ⟨u, hmeets, hu, he⟩ => ?_)
    exact ⟨u, .later hmeets, hu.trans hscopes, he⟩

end Task

namespace Tree

variable {d : Declarations} {t : Tree} {names : List String} {s u : State} {values : List Expr}

/-- What a declaration without a type does: the values are evaluated, and then the names are bound. -/
theorem visit_of_spells (hspells : t.Spells names)
    (hinferred : t.kind = .shortVarDeclaration ∨ t.child? .type = none)
    (hvisit : (t.meaning d).visit.run s = (values, u)) :
    values = ((Task.runAll d (Task.takeAll .expression t.values)).run s).1 ∧
      u.scopes = s.scopes.replay (Step.binds (Task.defined t.boundNames none (values, u))) := by
  have hwork := work_of_spells hspells hinferred d
  obtain ⟨g, hg⟩ := Task.run_define (d := d) t.boundNames none t.values
  rw [visit_eq, hwork, Task.runAll_singleton] at hvisit
  have hscopes := Task.scopes_define (d := d) t.boundNames none t.values s
  rw [Task.scopes_takeAll fun c _ => scoped_does d .expression c, hvisit] at hscopes
  rw [hg] at hvisit
  obtain ⟨rfl, rfl⟩ := Prod.mk.inj hvisit
  exact ⟨rfl, hscopes⟩

/-- **Each name is bound in the innermost block to the type at its place.** -/
theorem innermost_visit (hspells : t.Spells names)
    (hinferred : t.kind = .shortVarDeclaration ∨ t.child? .type = none)
    (hdistinct : names.Pairwise fun a b => a = b → a = "_")
    (hvisit : (t.meaning d).visit.run s = (values, u)) {types : List (Option StaticType)}
    (hgives : Gives u names.length values types) {i : Nat} {name : String}
    (hi : names[i]? = some name) (hname : name ≠ "_") :
    u.scopes.innermost.get? name = some (types[t.place i]?.join) := by
  have hplace : t.boundNames[t.place i]? = some name := (getElem?_place hspells i).trans hi
  have hlt := (List.getElem?_eq_some_iff.1 hplace).1
  obtain ⟨hle, hone⟩ := length_boundNames hspells
  have htype := valueTypes_of_gives hgives hle hone hlt
  have hbound : (Task.defined t.boundNames none (values, u))[t.place i]? =
      some (name, types[t.place i]?.join) := by
    rw [Task.getElem?_defined hplace, Option.none_or, htype]
  have hlater : ∀ j, i < j → names[j]? ≠ some name := by
    intro j hij hj
    obtain ⟨hlti, rfl⟩ := List.getElem?_eq_some_iff.1 hi
    obtain ⟨hltj, heq⟩ := List.getElem?_eq_some_iff.1 hj
    exact hname (List.pairwise_iff_getElem.1 hdistinct i j hlti hltj hij heq.symm)
  have hnotMem := notMem_drop_place hspells (List.mem_of_getElem? hi) hlater
  rw [← Task.map_defined t.boundNames none (values, u), ← List.map_drop] at hnotMem
  rw [(visit_of_spells hspells hinferred hvisit).2]
  -- the bindings before that of the name, the binding itself, and those after it
  generalize Task.defined t.boundNames none (values, u) = bs at hbound hnotMem
  obtain ⟨hltb, hb⟩ := List.getElem?_eq_some_iff.1 hbound
  rw [← List.take_append_drop (t.place i) bs, List.drop_eq_getElem_cons hltb, hb]
  exact Scopes.innermost_replay_binds s.scopes hname _ hnotMem

end Tree

/-- **Declared names get the types of their own values.** A declaration without a type evaluates its
values where it stands, before any of its names is bound. Then each name is bound in the innermost
block to a type that the values give, and to that of its own value unless it is one of several
constants: a constant is matched with the value at twice its own place, as the commas count. -/
theorem names_inferred {file t : Tree} {s u : State} {names : List String} {values : List Expr}
    (h : Reached file .statement t s) (hspells : t.Spells names)
    (hinferred : t.kind = .shortVarDeclaration ∨ t.child? .type = none)
    (hdistinct : names.Pairwise fun a b => a = b → a = "_")
    (hvisit : (t.meaning file.declarations).visit.run s = (values, u)) :
    List.Forall₂ (fun value e => ∃ v, Reached file .expression value v ∧ v.scopes = s.scopes ∧
        ((value.meaning file.declarations).lower.run v).1 = e) t.values values ∧
    (∀ e ∈ values, (lowerFile file).2.resolver.typeOf e.id = u.table.types.get? e.id) ∧
    ∀ types, Gives u names.length values types →
      (∀ (i : Nat) (name : String), names[i]? = some name → name ≠ "_" →
        u.scopes.innermost.get? name = some (types[t.place i]?.join)) ∧
      ((∀ (i : Nat) (name : String), names[i]? = some name → name ≠ "_" →
          u.scopes.innermost.get? name = some (types[i]?.join)) ↔
        t.kind ≠ .constSpec ∨ ∀ (i : Nat) (name : String), names[i]? = some name → name ≠ "_" →
          types[2 * i]?.join = types[i]?.join) := by
  refine ⟨?_, ?_, fun types hgives => ?_⟩
  · have hvalues := Task.forall₂_takeAll file.declarations t.values s
    rw [← (Tree.visit_of_spells hspells hinferred hvisit).1] at hvalues
    refine hvalues.imp fun value e ⟨v, hmeets, hv, he⟩ => ⟨v, .step h ?_, hv, he⟩
    rw [Tree.tasks, Tree.work_of_spells hspells hinferred]
    exact .value hmeets
  · obtain ⟨hs, hwithin⟩ := h.within
    have hcovers := (Tree.keeps_does file.declarations .statement t s hs).covers
    rw [Tree.does, hvisit] at hwithin hcovers
    exact fun e he => congrArg Note.type (hwithin e.id (hcovers e he)).2
  · have hbound : ∀ (i : Nat) (name : String), names[i]? = some name → name ≠ "_" →
        u.scopes.innermost.get? name = some (types[t.place i]?.join) := fun i name hi hname =>
      Tree.innermost_visit hspells hinferred hdistinct hvisit hgives hi hname
    refine ⟨hbound, fun hown => ?_, fun hplaces i name hi hname => ?_⟩
    · by_cases hkind : t.kind = .constSpec
      · refine .inr fun i name hi hname => ?_
        have hplace := hbound i name hi hname
        rw [hown i name hi hname, Tree.place, if_pos hkind] at hplace
        exact (Option.some.inj hplace).symm
      · exact .inl hkind
    · rw [hbound i name hi hname, Tree.place]
      split
      · rename_i hkind
        rw [hplaces.resolve_left (not_not_intro hkind) i name hi hname]
      · rfl

/-- The first declaration of a file is come to with nothing in sight. -/
theorem Reached.of_first {file declaration t : Tree} (h : declaration ∈ file.ordered.head?)
    (hkind : declaration.kind.isTransparent = true) (ht : t ∈ declaration.parts.head?) :
    Reached file .statement t {} := by
  obtain ⟨rest, hrest⟩ := List.head?_eq_some_iff.1 h
  obtain ⟨others, hothers⟩ := List.head?_eq_some_iff.1 ht
  have hfirst : Reached file .statement declaration {} := by
    refine .start ?_
    rw [hrest]
    exact .here
  refine .step hfirst ?_
  rw [Tree.tasks, Tree.work_of_isTransparent hkind, hothers]
  exact .here

/-- A logger and an error, the results of one call between parentheses. -/
def newLogger : String :=
  "package p\nimport \"go.uber.org/zap\"\nvar log, err = (zap.NewProduction())"

theorem names_inferred_logger : ∃ (file t : Tree) (u : State) (call : Expr),
    Tree.ofSource? newLogger = some file ∧
    Reached file .statement t {} ∧ t.Spells ["log", "err"] ∧
    (t.meaning file.declarations).visit.run {} = ([call], u) ∧
    Gives u 2 [call] [some Known.zapLogger, some Known.error] ∧
    u.scopes.innermost.get? "log" = some (some Known.zapLogger) ∧
    u.scopes.innermost.get? "err" = some (some Known.error) := by
  have hfile : ∃ file ∈ Tree.ofSource? newLogger,
      ∃ declaration ∈ file.ordered.head?, declaration.kind.isTransparent = true ∧
      ∃ t ∈ declaration.parts.head?, t.kind = .varSpec ∧ t.childTexts .name = ["log", "err"] ∧
        (t.child? .type).isNone = true ∧
        ((t.meaning file.declarations).visit.run {}).1.length = 1 ∧
        ∃ call ∈ ((t.meaning file.declarations).visit.run {}).1.head?,
          ((t.meaning file.declarations).visit.run {}).2.results.get? call.stripParens.id =
            some [Known.zapLogger, Known.error] := by
    rw [Tree.ofSource?_eq]
    decide +kernel
  obtain ⟨file, hfile, declaration, hdeclaration, htransparent, t, ht, hkind, hnames, htype, hlength,
    call, hcall, hresults⟩ := hfile
  have hreached := Reached.of_first hdeclaration htransparent ht
  have hspells : t.Spells ["log", "err"] := by rw [Tree.Spells, hkind]; exact hnames
  obtain ⟨e, hvalues⟩ := List.length_eq_one_iff.1 hlength
  obtain rfl : e = call := by simpa [hvalues] using hcall
  have hvisit : (t.meaning file.declarations).visit.run {} =
      ([e], ((t.meaning file.declarations).visit.run {}).2) := Prod.ext hvalues rfl
  have hgives : Gives ((t.meaning file.declarations).visit.run {}).2 2 [e]
      [some Known.zapLogger, some Known.error] := .results (by decide) hresults
  obtain ⟨-, -, hbound⟩ := names_inferred hreached hspells (.inr (Option.isNone_iff_eq_none.1 htype))
    (by decide) hvisit
  have hown := (hbound _ hgives).2.2 (.inl (by simp [hkind]))
  exact ⟨file, t, _, e, hfile, hreached, hspells, hvisit, hgives, hown 0 "log" rfl (by decide),
    hown 1 "err" rfl (by decide)⟩

/-- Two constants, the second of which is logged. -/
def levelAndText : String :=
  "package main\n\nimport \"log/slog\"\n\nconst level, text = 1, \"Hello\"\n\n" ++
    "func main() \x7b\n\tslog.Info(text)\n\x7d\n"

/-- The second of two constants is not known to be a text, although its value is. -/
theorem constants_shifted : ∃ (file t : Tree) (u : State) (number text : Expr),
    Tree.ofSource? levelAndText = some file ∧
    Reached file .statement t {} ∧ t.Spells ["level", "text"] ∧ t.child? .type = none ∧
    (t.meaning file.declarations).visit.run {} = ([number, text], u) ∧
    Gives u 2 [number, text] [none, some .string] ∧
    u.scopes.innermost.get? "text" = some none := by
  have hfile : ∃ file ∈ Tree.ofSource? levelAndText,
      ∃ declaration ∈ file.ordered.head?, declaration.kind.isTransparent = true ∧
      ∃ t ∈ declaration.parts.head?, t.kind = .constSpec ∧
        t.childTexts .name = ["level", ",", "text"] ∧ (t.child? .type).isNone = true ∧
        ((t.meaning file.declarations).visit.run {}).1.map
          (fun e => ((t.meaning file.declarations).visit.run {}).2.table.types.get? e.id) =
            [none, some .string] ∧
        ((t.meaning file.declarations).visit.run {}).2.scopes.innermost.get? "text" = some none := by
    rw [Tree.ofSource?_eq]
    decide +kernel
  obtain ⟨file, hfile, declaration, hdeclaration, htransparent, t, ht, hkind, hnames, htype, htypes,
    hbound⟩ := hfile
  have hspells : t.Spells ["level", "text"] := by
    rw [Tree.Spells, hkind]
    exact ⟨hnames, by decide⟩
  generalize hvisit : (t.meaning file.declarations).visit.run {} = after at htypes hbound
  obtain ⟨values, u⟩ := after
  dsimp only at htypes hbound
  have hlength : values.length = 2 := by simpa using congrArg List.length htypes
  obtain ⟨number, text, rfl⟩ := List.length_eq_two.1 hlength
  have hgives : Gives u [number, text].length [number, text] _ := .each
  rw [htypes] at hgives
  exact ⟨file, t, u, number, text, hfile, Reached.of_first hdeclaration htransparent ht, hspells,
    Option.isNone_iff_eq_none.1 htype, hvisit, hgives, hbound⟩

end LogStyle.Go
