import LogStyle.Proofs.Promotion
import LogStyle.Proofs.TypeOrder
import LogStyle.Proofs.Writing

/-!
# The order of fields

A selector that a struct does not answer by itself goes through one of its embedded fields: the first
one whose type has a name. In which order the fields of a struct are declared plays no other part for
which calls are logging calls. But if another embedded field comes first, a logger behind it is not
found any more.

* `Tree.Shuffled`: files that differ in the order of the fields of their structs and in places.
* `LocalType.lead?`: the embedded field of a struct that a selector goes through.
* `Declarations.Related`: declarations that differ in how structs are laid out.
* `Declarations.Related.meaning_eq`: if the layouts answer alike, every node has the same meaning.
* `recognized_shuffled`: **the same calls are recognized in such files, if every struct keeps the
  embedded field that a selector goes through.** If it does not, a logger may be missed
  (`recognized_behind_embedded`).
-/

namespace LogStyle

/-- If no key is bound to two values, keys may be bound in any order. -/
theorem Bindings.find?_perm_of_unique {κ : Type u} {α : Type v} [DecidableEq κ]
    {xs ys : List (κ × α)} (h : xs.Perm ys)
    (hunique : ∀ p ∈ xs, ∀ q ∈ xs, p.1 = q.1 → p.2 = q.2) (k : κ) : find? k xs = find? k ys := by
  induction h with
  | nil => rfl
  | cons x _ ih =>
    rw [find?, find?, ih fun p hp q hq =>
      hunique p (List.mem_cons_of_mem _ hp) q (List.mem_cons_of_mem _ hq)]
  | swap x y rest =>
    simp only [find?]
    split
    · rename_i hy
      split
      · rename_i hx
        rw [hunique y (by simp) x (by simp) (hy.symm.trans hx)]
      · rfl
    · rfl
  | trans h₁ _ ih₁ ih₂ =>
    refine (ih₁ hunique).trans (ih₂ fun p hp q hq => ?_)
    exact hunique p (h₁.mem_iff.2 hp) q (h₁.mem_iff.2 hq)

namespace Go

/-! ## Layouts -/

namespace LocalType

/-- The embedded field that a selector goes through: the first one whose type has a name. -/
def lead? (layout : LocalType) : Option StaticType :=
  layout.embedded.find? fun type => (Declarations.embeddedName? type).isSome

/-- Fields of one name have one type. -/
def Unique (layout : LocalType) : Prop :=
  ∀ p ∈ layout.fields.entries, ∀ q ∈ layout.fields.entries, p.1 = q.1 → p.2 = q.2

instance (layout : LocalType) : Decidable layout.Unique :=
  inferInstanceAs (Decidable (∀ p ∈ _, ∀ q ∈ _, _))

/-- The same fields in another order. -/
structure Rearranged (layout layout' : LocalType) : Prop where
  underlying : layout'.underlying = layout.underlying
  fields : layout'.fields.entries.Perm layout.fields.entries
  embedded : layout'.embedded.Perm layout.embedded

theorem Rearranged.refl (layout : LocalType) : layout.Rearranged layout := ⟨rfl, .refl _, .refl _⟩

/-- Layouts that a selector cannot tell apart. -/
structure Answers (layout layout' : LocalType) : Prop where
  underlying : layout'.underlying = layout.underlying
  fields : ∀ name, layout'.fields.get? name = layout.fields.get? name
  lead : layout'.lead? = layout.lead?

theorem Rearranged.answers {layout layout' : LocalType} (h : layout.Rearranged layout')
    (hunique : layout.Unique) (hlead : layout'.lead? = layout.lead?) :
    layout.Answers layout' where
  underlying := h.underlying
  fields name := (Bindings.find?_perm_of_unique h.fields.symm hunique name).symm
  lead := hlead

end LocalType

namespace Declarations

variable (d : Declarations)

/-- The fields that one declaration gives names to, the last one first. -/
def fieldEntries (field : Tree) : List (String × StaticType) :=
  match field.kind, field.child? .type with
  | .fieldDeclaration, some node =>
    match field.childTexts .name with
    | [] => ((embeddedName? (d.typeOf node)).map (·, d.typeOf node)).toList
    | names => (names.map (·, d.typeOf node)).reverse
  | _, _ => []

/-- The type that one declaration embeds. -/
def embeddedIn (field : Tree) : List StaticType :=
  match field.kind, field.child? .type with
  | .fieldDeclaration, some node => if field.childTexts .name = [] then [d.typeOf node] else []
  | _, _ => []

theorem insertAll_eq {α : Type} (a : α) (names : List String) (fields : Bindings String α) :
    names.foldl (fun fields name => fields.insert name a) fields =
      ⟨(names.map (·, a)).reverse ++ fields.entries⟩ := by
  induction names generalizing fields with
  | nil => rfl
  | cons name names ih =>
    rw [List.foldl_cons, ih]
    simp [Bindings.insert]

theorem addField_entries (layout : LocalType) (field : Tree) : d.addField layout field =
    { layout with
      fields := ⟨d.fieldEntries field ++ layout.fields.entries⟩
      embedded := layout.embedded ++ d.embeddedIn field } := by
  unfold addField fieldEntries embeddedIn
  generalize field.kind = kind
  cases kind
  case fieldDeclaration =>
    cases field.child? .type with
    | none => simp
    | some node =>
      dsimp only
      cases field.childTexts .name with
      | nil => cases embeddedName? (d.typeOf node) <;> simp [Bindings.insert]
      | cons name names =>
        dsimp only
        rw [insertAll_eq]
        simp
  all_goals simp

/-- **The fields of a struct, declaration by declaration.** -/
theorem foldl_addField_eq (fields : List Tree) (layout : LocalType) :
    fields.foldl d.addField layout =
      { layout with
        fields := ⟨(fields.reverse.flatMap d.fieldEntries) ++ layout.fields.entries⟩
        embedded := layout.embedded ++ fields.flatMap d.embeddedIn } := by
  induction fields generalizing layout with
  | nil => simp
  | cons field fields ih =>
    rw [List.foldl_cons, ih, addField_entries]
    simp

end Declarations

/-! ## Declarations that differ in layouts -/

namespace Tree

/-- The declarations of the fields of a struct. -/
def fieldsOf (spec : Tree) : List Tree :=
  match spec.child? .type with
  | some type =>
    if type.kind = .structType then
      (type.parts.filter (·.kind = .fieldDeclarationList)).flatMap parts
    else []
  | none => []

/-- The declaration of a type without the fields of a struct. -/
def outline (spec : Tree) : Kind × Option String × Option (Option Tree) :=
  (spec.kind, spec.declared?, (spec.child? .type).map fun type =>
    if type.kind = .structType then none else some type)

/-- Declarations of a type with the fields of a struct in another order. -/
structure Shuffles (spec spec' : Tree) : Prop where
  outline : spec'.outline = spec.outline
  fields : spec'.fieldsOf.Perm spec.fieldsOf

instance (spec spec' : Tree) : Decidable (Shuffles spec spec') :=
  decidable_of_iff (_ ∧ _) ⟨fun h => ⟨h.1, h.2⟩, fun h => ⟨h.outline, h.fields⟩⟩

namespace Shuffles

variable {spec spec' : Tree} (h : spec.Shuffles spec')
include h

theorem kind_eq : spec'.kind = spec.kind := (Prod.mk.inj h.outline).1

theorem declared?_eq : spec'.declared? = spec.declared? :=
  (Prod.mk.inj (Prod.mk.inj h.outline).2).1

/-- What is declared is the same, or a struct. -/
theorem type_cases : (spec.child? .type = none ∧ spec'.child? .type = none) ∨
    ∃ type type', spec.child? .type = some type ∧ spec'.child? .type = some type' ∧
      (type' = type ∧ type.kind ≠ .structType ∨
        type.kind = .structType ∧ type'.kind = .structType) := by
  have htype := (Prod.mk.inj (Prod.mk.inj h.outline).2).2
  cases hspec : spec.child? .type with
  | none =>
    rw [hspec, Option.map_none, Option.map_eq_none_iff] at htype
    exact .inl ⟨rfl, htype⟩
  | some type =>
    rw [hspec, Option.map_some, Option.map_eq_some_iff] at htype
    obtain ⟨type', hspec', hsame⟩ := htype
    refine .inr ⟨type, type', rfl, hspec', ?_⟩
    by_cases hstruct : type.kind = .structType
    · exact .inr ⟨hstruct, by simpa [hstruct] using hsame⟩
    · have hstruct' : type'.kind ≠ .structType := by
        intro hstruct'
        simp [hstruct, hstruct'] at hsame
      exact .inl ⟨by simpa [hstruct, hstruct'] using hsame, hstruct⟩

end Shuffles

end Tree

namespace Declarations

/-- Declarations that differ in how types are laid out, in some way. -/
structure Related (R : LocalType → LocalType → Prop) (d d' : Declarations) : Prop where
  package : d'.package = d.package
  imports : d'.imports = d.imports
  aliases : d'.aliases = d.aliases
  functions : d'.functions = d.functions
  methods : d'.methods = d.methods
  types : ∀ name, Option.Rel R (d.types.get? name) (d'.types.get? name)

namespace Related

variable {R : LocalType → LocalType → Prop} {d d' : Declarations} {spec spec' : Tree}

theorem refl (hR : ∀ layout, R layout layout) (d : Declarations) : d.Related R d := by
  refine ⟨rfl, rfl, rfl, rfl, rfl, fun name => ?_⟩
  cases d.types.get? name with
  | none => exact .none
  | some layout => exact .some (hR layout)

theorem contains_types (h : d.Related R d') (name : String) :
    d'.types.contains name = d.types.contains name := by
  have hname := h.types name
  unfold Bindings.contains
  generalize d.types.get? name = layout at hname
  generalize d'.types.get? name = layout' at hname
  cases hname <;> rfl

section

variable (h : d.Related R d') (hR : ∀ {layout layout'}, R layout layout' →
  layout'.underlying = layout.underlying)
include h hR

theorem localNamed_eq (name : String) : d'.localNamed name = d.localNamed name := by
  have hname := h.types name
  unfold localNamed
  rw [h.package]
  generalize d.types.get? name = layout at hname
  generalize d'.types.get? name = layout' at hname
  cases hname with
  | none => rfl
  | some hlayout => simp [hR hlayout]

theorem typeNamed_eq (name : String) : d'.typeNamed name = d.typeNamed name := by
  unfold typeNamed
  rw [h.aliases, h.contains_types, h.localNamed_eq hR]

/-- A node denotes the same type. -/
theorem typeOf_eq : d'.typeOf = d.typeOf := by
  funext t
  refine typeOf_related (R := Eq) (fun _ => rfl) (fun _ _ => congrArg StaticType.pointer)
    (fun t => ?_) t fun name _ => h.typeNamed_eq hR name
  unfold typeQualified
  rw [h.imports]

theorem resultTypes_eq : d'.resultTypes = d.resultTypes := by
  have hentry : d'.resultEntry = d.resultEntry := by
    funext entry
    simp only [resultEntry, h.typeOf_eq hR]
  funext result
  cases result with
  | none => rfl
  | some result => simp only [resultTypes, hentry, h.typeOf_eq hR]

/-- Functions and methods are added alike. -/
theorem addSignature (node : Tree) : (d.addSignature node).Related R (d'.addSignature node) := by
  unfold Declarations.addSignature
  rw [h.resultTypes_eq hR, h.functions, h.methods]
  split
  · exact h
  · dsimp only
    split
    · exact ⟨h.package, h.imports, h.aliases, rfl, rfl, h.types⟩
    · split
      · exact ⟨h.package, h.imports, h.aliases, rfl, rfl, h.types⟩
      · exact h
    · exact h

theorem foldl_addSignature (nodes : List Tree) :
    (nodes.foldl Declarations.addSignature d).Related R
      (nodes.foldl Declarations.addSignature d') := by
  induction nodes generalizing d d' with
  | nil => exact h
  | cons node nodes ih => exact ih (h.addSignature hR node)

end

/-- A layout for one more name. -/
theorem insert (h : d.Related R d') (name : String) {layout layout' : LocalType}
    (hlayout : R layout layout') :
    Related R { d with types := d.types.insert name layout }
      { d' with types := d'.types.insert name layout' } := by
  refine ⟨h.package, h.imports, h.aliases, h.functions, h.methods, fun other => ?_⟩
  simp only [Bindings.get?_insert]
  split
  · exact .some hlayout
  · exact h.types other

/-! ## Types whose fields are in another order -/

theorem addTypeName (h : d.Related LocalType.Rearranged d') (hspec : spec.Shuffles spec') :
    (d.addTypeName spec).Related LocalType.Rearranged (d'.addTypeName spec') := by
  have hname : (spec'.child? .name).map Tree.text = (spec.child? .name).map Tree.text :=
    hspec.declared?_eq
  unfold Declarations.addTypeName
  rw [hspec.kind_eq]
  cases hnode : spec.child? .name with
  | none =>
    rw [hnode, Option.map_none, Option.map_eq_none_iff] at hname
    rw [hname]
    split <;> simp_all
  | some node =>
    rw [hnode, Option.map_some, Option.map_eq_some_iff] at hname
    obtain ⟨node', hnode', htext⟩ := hname
    rw [hnode']
    generalize spec.kind = kind
    cases kind
    case typeSpec =>
      dsimp only
      rw [htext]
      exact h.insert node.text (.refl _)
    all_goals exact h

/-- The layout of a struct with its fields in another order. -/
theorem structLayout (h : d.Related LocalType.Rearranged d') (hspec : spec.Shuffles spec')
    {type type' : Tree} (htype : spec.child? .type = some type)
    (htype' : spec'.child? .type = some type') (hstruct : type.kind = .structType)
    (hstruct' : type'.kind = .structType) :
    (d.structLayout type).Rearranged (d'.structLayout type') := by
  have htypes := h.typeOf_eq LocalType.Rearranged.underlying
  have hentries : d'.fieldEntries = d.fieldEntries := by
    funext field
    simp only [fieldEntries, htypes]
  have hembedded : d'.embeddedIn = d.embeddedIn := by
    funext field
    simp only [embeddedIn, htypes]
  have hfields := hspec.fields
  simp only [Tree.fieldsOf, htype, htype', hstruct, hstruct', if_true] at hfields
  unfold Declarations.structLayout
  rw [foldl_addField_eq, foldl_addField_eq, hentries, hembedded]
  refine ⟨rfl, ?_, ?_⟩
  · refine List.Perm.append_right _ (List.Perm.flatMap_right _ ?_)
    exact (List.reverse_perm _).trans (hfields.trans (List.reverse_perm _).symm)
  · exact List.Perm.append_left _ (hfields.flatMap_right _)

theorem addType (h : d.Related LocalType.Rearranged d') (hspec : spec.Shuffles spec') :
    (d.addType spec).Related LocalType.Rearranged (d'.addType spec') := by
  have htypes := h.typeOf_eq LocalType.Rearranged.underlying
  have hname : (spec'.child? .name).map Tree.text = (spec.child? .name).map Tree.text :=
    hspec.declared?_eq
  cases hnode : spec.child? .name with
  | none =>
    rw [hnode, Option.map_none, Option.map_eq_none_iff] at hname
    rwa [addType_of_name_none hnode, addType_of_name_none hname]
  | some node =>
    rw [hnode, Option.map_some, Option.map_eq_some_iff] at hname
    obtain ⟨node', hnode', htext⟩ := hname
    rcases hspec.type_cases with ⟨htype, htype'⟩ | ⟨type, type', htype, htype', hcases⟩
    · rwa [addType_of_type_none htype, addType_of_type_none htype']
    · by_cases hkind : spec.kind = .typeAlias
      · rw [addType_alias hnode htype hkind, addType_alias hnode' htype' (hspec.kind_eq.trans hkind),
          htext, h.aliases, htypes]
        have hsame : d.typeOf type' = d.typeOf type := by
          rcases hcases with ⟨rfl, -⟩ | ⟨hstruct, hstruct'⟩
          · rfl
          · rw [Declarations.typeOf_eq, Declarations.typeOf_eq d type, hstruct, hstruct']
        rw [hsame]
        exact ⟨h.package, h.imports, rfl, h.functions, h.methods, h.types⟩
      · have hkind' : spec'.kind ≠ .typeAlias := by rwa [hspec.kind_eq]
        rw [addType_spec hnode htype hkind, addType_spec hnode' htype' hkind', htext]
        refine h.insert node.text ?_
        unfold described
        rcases hcases with ⟨rfl, hstruct⟩ | ⟨hstruct, hstruct'⟩
        · rw [if_neg hstruct, if_neg hstruct, htypes]
          exact .refl _
        · rw [if_pos hstruct, if_pos hstruct']
          exact h.structLayout hspec htype htype' hstruct hstruct'

theorem foldl_addType {specs specs' : List Tree} (h : d.Related LocalType.Rearranged d')
    (hspecs : List.Forall₂ Tree.Shuffles specs specs') :
    (specs.foldl Declarations.addType d).Related LocalType.Rearranged
      (specs'.foldl Declarations.addType d') := by
  induction hspecs generalizing d d' with
  | nil => exact h
  | cons hspec _ ih => exact ih (h.addType hspec)

theorem foldl_addTypeName {specs specs' : List Tree} (h : d.Related LocalType.Rearranged d')
    (hspecs : List.Forall₂ Tree.Shuffles specs specs') :
    (specs.foldl Declarations.addTypeName d).Related LocalType.Rearranged
      (specs'.foldl Declarations.addTypeName d') := by
  induction hspecs generalizing d d' with
  | nil => exact h
  | cons hspec _ ih => exact ih (h.addTypeName hspec)

/-! ## What is made of nodes -/

section

variable (h : d.Related LocalType.Answers d')
include h

theorem fields_eq (typeName name : String) :
    (d'.types.get? typeName).bind (·.fields.get? name) =
      (d.types.get? typeName).bind (·.fields.get? name) := by
  have hlayout := h.types typeName
  generalize d.types.get? typeName = layout at hlayout
  generalize d'.types.get? typeName = layout' at hlayout
  cases hlayout with
  | none => rfl
  | some hanswers => exact hanswers.fields name

theorem has_eq (name : String) (type : StaticType) : d'.has name type = d.has name type := by
  unfold has
  simp only [h.package, h.methods, h.fields_eq]

theorem lead?_eq (type : StaticType) : d'.lead? type = d.lead? type := by
  unfold lead? embeddedTypes
  rw [h.package]
  cases target type with
  | named package typeName underlying =>
    dsimp only
    have hlayout := h.types typeName
    generalize d.types.get? typeName = layout at hlayout
    generalize d'.types.get? typeName = layout' at hlayout
    split
    · cases hlayout with
      | none => rfl
      | some hanswers => exact hanswers.lead
    · rfl
  | string | pointer | other => rfl

theorem memberWithin?_eq (name : String) (limit : Nat) (type : StaticType) :
    d'.memberWithin? name limit type = d.memberWithin? name limit type := by
  have hself : ∀ type, d'.memberWithin? name 0 type = d.memberWithin? name 0 type := by
    intro type
    unfold memberWithin?
    simp only [h.package, h.methods, h.fields_eq]
  induction limit generalizing type with
  | zero => exact hself type
  | succ limit ih =>
    rw [memberWithin?_succ, memberWithin?_succ, h.has_eq, h.lead?_eq, hself]
    simp only [ih]

/-- **A node has the same meaning, if layouts answer alike.** -/
theorem ofNode_eq (t : Tree) (ms : List Meaning) :
    Meaning.ofNode d' t ms = Meaning.ofNode d t ms := by
  have htypeOf := h.typeOf_eq LocalType.Answers.underlying
  have hlocal := h.localNamed_eq LocalType.Answers.underlying
  have hmember : d'.member? = d.member? := by
    funext type name
    exact h.memberWithin?_eq name embeddingLimit type
  have hidentifier : Meaning.resolveIdentifier d' = Meaning.resolveIdentifier d := by
    funext id name
    simp only [Meaning.resolveIdentifier, h.imports, h.functions, h.package]
  have hcall : Meaning.callResults d' = Meaning.callResults d := by
    funext s callee
    simp only [Meaning.callResults, h.functions, h.aliases, h.contains_types, hlocal, h.package,
      h.methods]
  have hparameters : Meaning.declareParameters d' = Meaning.declareParameters d := by
    funext parameters
    induction parameters with
    | nil => rfl
    | cons parameter rest ih =>
      simp only [Meaning.declareParameters, Meaning.declareParameter, htypeOf, ih]
  have hlower : Meaning.lowerNode d' t ms = Meaning.lowerNode d t ms := by
    simp only [Meaning.lowerNode, hidentifier, Meaning.lowerSelector, hmember, Meaning.lowerCall, hcall,
      Meaning.typeIn, htypeOf, Meaning.visitFunction, hparameters]
  simp only [Meaning.ofNode, hlower, Meaning.visitNode, Meaning.visitFunction, hparameters,
    Meaning.typeIn, htypeOf]

end

mutual

theorem meaning_eq (h : d.Related LocalType.Answers d') :
    ∀ t : Tree, t.meaning d' = t.meaning d
  | .node .. => by rw [Tree.meaning, Tree.meaning, meanings_eq h, h.ofNode_eq]

theorem meanings_eq (h : d.Related LocalType.Answers d') :
    ∀ ts : List Tree, Tree.meanings d' ts = Tree.meanings d ts
  | [] => rfl
  | t :: ts => by rw [Tree.meanings, Tree.meanings, meaning_eq h, meanings_eq h]

end

theorem runAll_eq (h : d.Related LocalType.Answers d') (ts : List Tree) :
    Task.runAll d' (Task.takeAll .statement ts) = Task.runAll d (Task.takeAll .statement ts) := by
  induction ts with
  | nil => rfl
  | cons t ts ih =>
    rw [Task.runAll_takeAll_cons, Task.runAll_takeAll_cons, ih, Tree.does, Tree.does, h.meaning_eq]

end Related

end Declarations

/-! ## Files with fields in another order -/

namespace Tree

/-- Files that differ in the order of the fields of their structs and in places only. -/
structure Shuffled (file file' : Tree) : Prop where
  others : (file'.fileMasked .placement).others = (file.fileMasked .placement).others
  types : List.Forall₂ Shuffles (Declarations.typeSpecs (file.fileMasked .placement).parts)
    (Declarations.typeSpecs (file'.fileMasked .placement).parts)

instance (file file' : Tree) : Decidable (Shuffled file file') :=
  decidable_of_iff (_ ∧ _) ⟨fun h => ⟨h.1, h.2⟩, fun h => ⟨h.others, h.types⟩⟩

variable {file file' : Tree}

/-- The same is declared, with the fields of structs in another order. -/
theorem Shuffled.related (h : Shuffled file file') :
    file.declarations.Related LocalType.Rearranged file'.declarations := by
  rw [← declarations_fileMasked .placement file, ← declarations_fileMasked .placement file',
    declarations, declarations, Declarations.ofTrees, Declarations.ofTrees,
    foldl_addSignature_others, foldl_addSignature_others, h.others]
  refine Declarations.Related.foldl_addSignature ?_ LocalType.Rearranged.underlying _
  obtain ⟨hpackage, himports⟩ := headings_of_others h.others
  rw [hpackage, himports]
  have hstart := Declarations.Related.refl LocalType.Rearranged.refl
    { package := Declarations.packageName (file.fileMasked .placement).parts
      imports := .ofTrees (file.fileMasked .placement).parts }
  exact (hstart.foldl_addTypeName h.types).foldl_addType h.types

/-- **If no struct changes the embedded field that a selector goes through, the files leave the same
expressions behind**, and the same is known about them. -/
theorem visited_shuffled (h : Shuffled file file')
    (hanswers : file.declarations.Related LocalType.Answers file'.declarations) :
    file'.visited.1.map (Expr.masked .placement) = file.visited.1.map (Expr.masked .placement) ∧
      file'.visited.2 = file.visited.2 := by
  apply visited_of_masked
  rw [visited_eq, visited_eq, declarations_fileMasked, declarations_fileMasked,
    hanswers.runAll_eq, runAll_others, others_ordered, h.others, ← others_ordered, ← runAll_others]

end Tree

/-- The calls of a file up to their places, each with the index of its message if it is a logging
call. -/
def recognized (file : Tree) : List (Expr × Option Nat) :=
  (Expr.callsOfAll (lowerFile file).1).map fun call =>
    (call.masked .placement, (LoggingApi.resolve? (lowerFile file).2.resolver call).map (·.index))

/-- **The order of fields.** In files that differ in the order of the fields of their structs, the
same calls are recognized, if in each struct the fields of one name have one type and the first
embedded field whose type has a name stays the same. -/
theorem recognized_shuffled {file file' : Tree} (h : Tree.Shuffled file file')
    (hunique : ∀ name layout, file.declarations.types.get? name = some layout → layout.Unique)
    (hlead : ∀ name layout layout', file.declarations.types.get? name = some layout →
      file'.declarations.types.get? name = some layout' → layout'.lead? = layout.lead?) :
    (recognized file').Perm (recognized file) := by
  have hanswers : file.declarations.Related LocalType.Answers file'.declarations := by
    refine { h.related with types := fun name => ?_ }
    have hlayout := h.related.types name
    have hunique := hunique name
    have hlead := hlead name
    generalize file.declarations.types.get? name = layout at *
    generalize file'.declarations.types.get? name = layout' at *
    cases hlayout with
    | none => exact .none
    | some hrearranged =>
      exact .some (hrearranged.answers (hunique _ rfl) (hlead _ _ rfl rfl))
  obtain ⟨hes, hstate⟩ := Tree.visited_shuffled h hanswers
  have htable : (lowerFile file').2 = (lowerFile file).2 := congrArg State.table hstate
  rw [recognized, recognized, LoggingApi.indices_masked, LoggingApi.indices_masked, htable]
  exact (perm_callsOfAll (Tree.perm_lowerFile_masked hes)).map _

/-- A file with a struct that has some fields, and a call of a method of the struct. -/
def embedding (fields : String) : String :=
  "package p\nimport \"log/slog\"\ntype B struct\x7b\x7d\ntype C struct\x7b\x7d\ntype S struct\x7b" ++
    fields ++ "\x7d\nfunc f(s S)\x7bs.Info(\"A\")\x7d"

/-- Two fields behind the logger change places. -/
theorem recognized_shuffled_behind : ∃ file file' : Tree,
    Tree.ofSource? (embedding "*slog.Logger;B;C") = some file ∧
    Tree.ofSource? (embedding "*slog.Logger;C;B") = some file' ∧
    (recognized file).map (·.2) = [some 0] ∧ (recognized file').Perm (recognized file) := by
  have hfiles : ∃ file ∈ Tree.ofSource? (embedding "*slog.Logger;B;C"),
      ∃ file' ∈ Tree.ofSource? (embedding "*slog.Logger;C;B"), Tree.Shuffled file file' ∧
      (∀ name ∈ file.declarations.types.keys, ∀ layout ∈ file.declarations.types.get? name,
        layout.Unique ∧ ∀ layout' ∈ file'.declarations.types.get? name,
          layout'.lead? = layout.lead?) ∧
      (recognized file).map (·.2) = [some 0] := by
    simp only [Tree.ofSource?_eq]
    decide +kernel
  obtain ⟨file, hfile, file', hfile', hshuffled, hlayouts, hfound⟩ := hfiles
  have hlayouts : ∀ name layout, file.declarations.types.get? name = some layout →
      layout.Unique ∧ ∀ layout' ∈ file'.declarations.types.get? name,
        layout'.lead? = layout.lead? := by
    intro name layout hlayout
    refine hlayouts name (Bindings.mem_keys.2 ?_) layout hlayout
    rw [hlayout]
    rfl
  refine ⟨file, file', hfile, hfile', hfound, ?_⟩
  exact recognized_shuffled hshuffled (fun name layout h => (hlayouts name layout h).1)
    fun name layout layout' h h' => (hlayouts name layout h).2 layout' h'

/-- A logger behind another embedded field is not found. -/
theorem recognized_behind_embedded : ∃ file file' : Tree,
    Tree.ofSource? (embedding "*slog.Logger;B") = some file ∧
    Tree.ofSource? (embedding "B;*slog.Logger") = some file' ∧ Tree.Shuffled file file' ∧
    (recognized file).map (·.2) = [some 0] ∧ (recognized file').map (·.2) = [none] := by
  have hfiles : ∃ file ∈ Tree.ofSource? (embedding "*slog.Logger;B"),
      ∃ file' ∈ Tree.ofSource? (embedding "B;*slog.Logger"), Tree.Shuffled file file' ∧
      (recognized file).map (·.2) = [some 0] ∧ (recognized file').map (·.2) = [none] := by
    simp only [Tree.ofSource?_eq]
    decide +kernel
  obtain ⟨file, hfile, file', hfile', hdiffer⟩ := hfiles
  exact ⟨file, file', hfile, hfile', hdiffer⟩

end Go

end LogStyle
