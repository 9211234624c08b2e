import LogStyle.Go.Lowering
import Mathlib.Data.List.Basic

/-!
# What declarations are read off

A file declares what the kinds, the roles and the names of its nodes say. A change of nodes that
keeps these keeps the declarations, whatever it does to places and to literals.

* `Tree.Retains`: a change of nodes that keeps all that declarations are read off.
* `Declarations.typeOf_eq`, `Declarations.baseName?_eq`: how the type that a node denotes and its
  name are found.
* `Retains.typeOf`: a changed node denotes the type that the node denotes.
* `Retains.ofTrees`: **a changed file declares what the file declares.**
-/

namespace LogStyle.Go

/-- The roles in which a text is read. -/
def Field.isRead : Field → Bool
  | .name | .package | .member | .operator => true
  | _ => false

namespace Tree

/-- A string literal, unless it has a role in which a text is read. -/
def isWording (t : Tree) : Bool :=
  (t.kind = .interpretedStringLiteral || t.kind = .rawStringLiteral) && !t.field.any Field.isRead

/-- A node without a role that may be a string literal, parentheses aside. -/
def isLoose (t : Tree) : Bool :=
  t.field.isNone && (t.kind = .interpretedStringLiteral || t.kind = .rawStringLiteral
    || t.kind = .parenthesizedExpression)

/-- A change of nodes that keeps what declarations are read off. Only arguments that may be literals
may get lost. -/
structure Retains (f : Tree → Tree) : Prop where
  field : ∀ t, (f t).field = t.field
  kind : ∀ t, (f t).kind = t.kind
  text : ∀ t, t.isWording = false → (f t).text = t.text
  parts : ∀ t, t.kind ≠ .argumentList → (f t).parts = t.parts.map f
  filter : ∀ (t : Tree) (p : Tree → Bool), (∀ u, p (f u) = p u) →
    (∀ u, u.isLoose = true → p u = false) → (f t).children.filter p = (t.children.filter p).map f

variable {f : Tree → Tree} {t c : Tree} {ts : List Tree} {role : Field} {p : Tree → Bool}

theorem sizeOf_lt_of_mem_children (h : c ∈ t.children) : sizeOf c < sizeOf t := by
  obtain ⟨field, kind, span, text, children⟩ := t
  have hlt : sizeOf c < sizeOf children := List.sizeOf_lt_of_mem h
  rw [node.sizeOf_spec]
  omega

theorem mem_children_of_mem_parts (h : c ∈ t.parts) : c ∈ t.children := List.mem_of_mem_filter h

theorem mem_children_of_child? (h : t.child? role = some c) : c ∈ t.children :=
  List.mem_of_find?_eq_some h

theorem field_of_child? (h : t.child? role = some c) : c.field = some role := by
  have hfield := List.find?_some h
  exact of_decide_eq_true hfield

theorem isWording_of_field (h : t.field = some role) (hread : role.isRead = true) :
    t.isWording = false := by
  simp [isWording, h, hread]

theorem isWording_of_kind (h : t.kind ≠ .interpretedStringLiteral) (h' : t.kind ≠ .rawStringLiteral) :
    t.isWording = false := by
  simp [isWording, h, h']

/-- What is in a role is not loose. -/
theorem isLoose_of_field (h : t.field = some role) : t.isLoose = false := by
  simp [isLoose, h]

theorem not_role_of_isLoose (h : t.isLoose = true) (role : Field) :
    decide (t.field = some role) = false := by
  rw [decide_eq_false_iff_not]
  intro hfield
  rw [isLoose_of_field hfield] at h
  cases h

namespace Retains

variable (h : Retains f)
include h

theorem isNamed (t : Tree) : (f t).isNamed = t.isNamed := by
  rw [Tree.isNamed, Tree.isNamed, h.kind]

theorem find? (t : Tree) (hp : ∀ u, p (f u) = p u) (hloose : ∀ u, u.isLoose = true → p u = false) :
    (f t).children.find? p = (t.children.find? p).map f := by
  rw [← List.head?_filter, h.filter t p hp hloose, List.head?_map, List.head?_filter]

theorem child? (t : Tree) (role : Field) : (f t).child? role = (t.child? role).map f :=
  h.find? t (fun u => by rw [h.field]) fun _ hu => not_role_of_isLoose hu role

theorem text_of_field (hfield : t.field = some role) (hread : role.isRead = true) :
    (f t).text = t.text :=
  h.text t (isWording_of_field hfield hread)

theorem text_of_child? (hc : t.child? role = some c) (hread : role.isRead = true) :
    (f c).text = c.text :=
  h.text_of_field (field_of_child? hc) hread

theorem childTexts (t : Tree) (hread : role.isRead = true) :
    (f t).childTexts role = t.childTexts role := by
  rw [Tree.childTexts, h.filter t _ (fun u => by rw [h.field]) fun _ hu => not_role_of_isLoose hu role,
    List.map_map]
  refine List.map_congr_left fun c hc => ?_
  exact h.text_of_field (of_decide_eq_true (List.mem_filter.1 hc).2) hread

theorem hasToken (t : Tree) (text : String) : (f t).hasToken text = t.hasToken text := by
  have hp : ∀ u : Tree, (decide ((f u).kind = .token) && decide ((f u).text = text)) =
      (decide (u.kind = .token) && decide (u.text = text)) := by
    intro u
    rw [h.kind]
    by_cases hu : u.kind = .token
    · rw [h.text u (isWording_of_kind (by simp [hu]) (by simp [hu]))]
    · simp [hu]
  have hloose : ∀ u : Tree, u.isLoose = true →
      (decide (u.kind = .token) && decide (u.text = text)) = false := by
    intro u hu
    rw [isLoose, Bool.and_eq_true, Bool.or_eq_true, Bool.or_eq_true, decide_eq_true_eq,
      decide_eq_true_eq, decide_eq_true_eq] at hu
    rcases hu.2 with (hkind | hkind) | hkind <;> simp [hkind]
  rw [Bool.eq_iff_iff, Tree.hasToken, Tree.hasToken, List.any_eq_true, List.any_eq_true,
    ← List.find?_isSome, ← List.find?_isSome, h.find? t hp hloose, Option.isSome_map]

end Retains

end Tree

/-! ## Types -/

namespace Declarations

theorem typeOfFirst_eq (d : Declarations) (ts : List Tree) :
    d.typeOfFirst ts = ((ts.filter Tree.isNamed).head?.map d.typeOf).getD (.other "") := by
  induction ts with
  | nil => rfl
  | cons t ts ih =>
    rw [typeOfFirst, List.filter_cons]
    split
    · rfl
    · exact ih

theorem typeOfGeneric_eq (d : Declarations) (ts : List Tree) :
    d.typeOfGeneric ts =
      ((ts.find? (·.field = some .type)).map d.typeOf).getD (.other "generic") := by
  induction ts with
  | nil => rfl
  | cons t ts ih =>
    rw [typeOfGeneric, List.find?_cons]
    by_cases ht : t.field = some .type
    · rw [if_pos ht, decide_eq_true ht]
      rfl
    · rw [if_neg ht, decide_eq_false ht]
      exact ih

/-- The type that a node denotes, by its kind. -/
theorem typeOf_eq (d : Declarations) (t : Tree) : d.typeOf t =
    match t.kind with
    | .typeIdentifier => d.typeNamed t.text
    | .pointerType => .pointer ((t.parts.head?.map d.typeOf).getD (.other ""))
    | .qualifiedType => d.typeQualified t
    | .parenthesizedType => (t.parts.head?.map d.typeOf).getD (.other "")
    | .genericType => ((t.child? .type).map d.typeOf).getD (.other "generic")
    | kind => .other kind.name := by
  obtain ⟨field, kind, span, text, children⟩ := t
  have hfirst := typeOfFirst_eq d children
  have hgeneric := typeOfGeneric_eq d children
  cases kind
  case pointerType => exact congrArg StaticType.pointer hfirst
  case parenthesizedType => exact hfirst
  case genericType => exact hgeneric
  all_goals rfl

theorem baseNameOfFirst?_eq (ts : List Tree) :
    baseNameOfFirst? ts = (ts.filter Tree.isNamed).head?.bind baseName? := by
  induction ts with
  | nil => rfl
  | cons t ts ih =>
    rw [baseNameOfFirst?, List.filter_cons]
    split
    · rfl
    · exact ih

theorem baseNameOfGeneric?_eq (ts : List Tree) :
    baseNameOfGeneric? ts = (ts.find? (·.field = some .type)).bind baseName? := by
  induction ts with
  | nil => rfl
  | cons t ts ih =>
    rw [baseNameOfGeneric?, List.find?_cons]
    by_cases ht : t.field = some .type
    · rw [if_pos ht, decide_eq_true ht]
      rfl
    · rw [if_neg ht, decide_eq_false ht]
      exact ih

/-- The name behind pointers, parentheses and type arguments, by the kind of a node. -/
theorem baseName?_eq (t : Tree) : baseName? t =
    match t.kind with
    | .pointerType | .parenthesizedType => t.parts.head?.bind baseName?
    | .genericType => (t.child? .type).bind baseName?
    | .typeIdentifier => some t.text
    | _ => none := by
  obtain ⟨field, kind, span, text, children⟩ := t
  have hfirst := baseNameOfFirst?_eq children
  have hgeneric := baseNameOfGeneric?_eq children
  cases kind
  case pointerType => exact hfirst
  case parenthesizedType => exact hfirst
  case genericType => exact hgeneric
  all_goals rfl

end Declarations

/-- Imports and lists of them. -/
def isImport (t : Tree) : Bool := t.kind = .importSpec || t.kind = .importSpecList

theorem importSpecs_eq (t : Tree) : importSpecs t = (t.children.filter isImport).flatMap fun c =>
    if c.kind = .importSpec then [c] else importSpecs c := by
  obtain ⟨field, kind, span, text, children⟩ := t
  rw [importSpecs, Tree.children]
  induction children with
  | nil => rfl
  | cons c children ih =>
    rw [importSpecsOfAll, ih, List.filter_cons]
    by_cases hspec : c.kind = .importSpec
    · simp [isImport, hspec]
    · by_cases hlist : c.kind = .importSpecList
      · simp [isImport, hlist]
      · simp [isImport, hspec, hlist]

namespace Tree.Retains

open Declarations

variable {f g : Tree → Tree} (h : Retains f)
include h

/-- What is found for the first part of a changed node. -/
theorem head?_parts {α : Type} {t : Tree} {read : Tree → α} (hkind : t.kind ≠ .argumentList)
    (hread : ∀ c ∈ t.parts, read (f c) = read c) :
    (f t).parts.head?.map read = t.parts.head?.map read := by
  rw [h.parts t hkind, List.head?_map, Option.map_map]
  cases hhead : t.parts.head? with
  | none => rfl
  | some c => simp [hread c (List.mem_of_mem_head? hhead)]

theorem map_child? {α : Type} {t : Tree} {read : Tree → α} (role : Field)
    (hread : ∀ c, t.child? role = some c → read (f c) = read c) :
    ((f t).child? role).map read = (t.child? role).map read := by
  rw [h.child?, Option.map_map]
  cases hchild : t.child? role with
  | none => rfl
  | some c => simp [hread c hchild]

theorem typeQualified (d : Declarations) {t : Tree} (hkind : t.kind = .qualifiedType) :
    d.typeQualified (f t) = d.typeQualified t := by
  have htext : (f t).text = t.text := h.text t (isWording_of_kind (by simp [hkind]) (by simp [hkind]))
  have hpackage : ((f t).child? .package).bind (fun p => d.imports.get? p.text) =
      (t.child? .package).bind fun p => d.imports.get? p.text := by
    rw [h.child?, Option.bind_map]
    cases hc : t.child? .package with
    | none => rfl
    | some package => simp [h.text_of_child? hc rfl]
  unfold Declarations.typeQualified
  rw [hpackage, h.child?, htext]
  cases hname : t.child? .name with
  | none => rfl
  | some name =>
    cases (t.child? .package).bind fun p => d.imports.get? p.text <;>
      simp [h.text_of_child? hname rfl]

/-- A changed node denotes the type that the node denotes. -/
theorem typeOf (d : Declarations) (t : Tree) : d.typeOf (f t) = d.typeOf t := by
  have hbelow : ∀ c ∈ t.children, d.typeOf (f c) = d.typeOf c := fun c hc =>
    have := sizeOf_lt_of_mem_children hc
    typeOf d c
  have hfirst : t.kind ≠ .argumentList →
      (f t).parts.head?.map d.typeOf = t.parts.head?.map d.typeOf :=
    fun hkind => h.head?_parts hkind fun c hc => hbelow c (mem_children_of_mem_parts hc)
  have hgeneric : ((f t).child? .type).map d.typeOf = (t.child? .type).map d.typeOf :=
    h.map_child? .type fun c hc => hbelow c (mem_children_of_child? hc)
  have hqualified := h.typeQualified d (t := t)
  have htext : t.kind = .typeIdentifier → (f t).text = t.text :=
    fun hkind => h.text t (isWording_of_kind (by simp [hkind]) (by simp [hkind]))
  rw [typeOf_eq, typeOf_eq d t, h.kind]
  generalize t.kind = kind at hfirst hqualified htext
  cases kind
  case typeIdentifier => simp only [htext rfl]
  case pointerType => simp only [hfirst (by simp)]
  case qualifiedType => simp only [hqualified rfl]
  case parenthesizedType => simp only [hfirst (by simp)]
  case genericType => simp only [hgeneric]
  all_goals rfl
termination_by sizeOf t

theorem baseName? (t : Tree) : baseName? (f t) = baseName? t := by
  have hbelow : ∀ c ∈ t.children, Declarations.baseName? (f c) = Declarations.baseName? c :=
    fun c hc =>
      have := sizeOf_lt_of_mem_children hc
      baseName? c
  have hfirst : t.kind ≠ .argumentList →
      (f t).parts.head?.map Declarations.baseName? = t.parts.head?.map Declarations.baseName? :=
    fun hkind => h.head?_parts hkind fun c hc => hbelow c (mem_children_of_mem_parts hc)
  have hgeneric : ((f t).child? .type).map Declarations.baseName? =
      (t.child? .type).map Declarations.baseName? :=
    h.map_child? .type fun c hc => hbelow c (mem_children_of_child? hc)
  have hjoin : ∀ o : Option Tree, o.bind Declarations.baseName? = (o.map Declarations.baseName?).join := by
    intro o
    cases o <;> rfl
  have htext : t.kind = .typeIdentifier → (f t).text = t.text :=
    fun hkind => h.text t (isWording_of_kind (by simp [hkind]) (by simp [hkind]))
  rw [baseName?_eq, baseName?_eq t, h.kind]
  generalize t.kind = kind at hfirst htext
  cases kind
  case typeIdentifier => simp only [htext rfl]
  case pointerType => simp only [hjoin, hfirst (by simp)]
  case parenthesizedType => simp only [hjoin, hfirst (by simp)]
  case genericType => simp only [hjoin, hgeneric]
  all_goals rfl
termination_by sizeOf t

theorem addField (d : Declarations) (layout : LocalType) (field : Tree) :
    d.addField layout (f field) = d.addField layout field := by
  unfold Declarations.addField
  rw [h.kind, h.child?, h.childTexts field rfl]
  cases field.child? .type with
  | none => rfl
  | some node =>
    generalize field.kind = kind
    cases kind <;> simp only [Option.map_some, h.typeOf]

theorem structLayout (d : Declarations) {struct : Tree} (hkind : struct.kind = .structType) :
    d.structLayout (f struct) = d.structLayout struct := by
  have hlists : ∀ list ∈ struct.parts.filter (·.kind = .fieldDeclarationList),
      (f list).parts = list.parts.map f := by
    intro list hlist
    refine h.parts list ?_
    rw [of_decide_eq_true (List.mem_filter.1 hlist).2]
    simp
  unfold Declarations.structLayout
  rw [h.parts struct (by simp [hkind])]
  simp only [List.filter_map, Function.comp_def, h.kind, List.flatMap_map]
  rw [List.flatMap_congr hlists, ← List.map_flatMap, List.foldl_map]
  simp only [h.addField]

theorem addTypeName (d : Declarations) (spec : Tree) : d.addTypeName (f spec) = d.addTypeName spec := by
  unfold Declarations.addTypeName
  rw [h.kind, h.child?]
  cases hname : spec.child? .name with
  | none => rfl
  | some name =>
    generalize spec.kind = kind
    cases kind <;> simp only [Option.map_some, h.text_of_child? hname rfl]

theorem addType (d : Declarations) (spec : Tree) : d.addType (f spec) = d.addType spec := by
  unfold Declarations.addType
  rw [h.kind, h.child?, h.child?]
  cases hname : spec.child? .name with
  | none => simp
  | some name =>
    cases spec.child? .type with
    | none => simp
    | some type =>
      simp only [Option.map_some, h.text_of_child? hname rfl, h.kind, h.typeOf]
      split
      · rfl
      · split
        · rename_i hstruct
          rw [h.structLayout d hstruct]
        · rfl

/-! ## Functions and methods -/

theorem resultEntry (d : Declarations) (entry : Tree) : d.resultEntry (f entry) = d.resultEntry entry := by
  unfold Declarations.resultEntry
  rw [h.child?, h.childTexts entry rfl]
  cases entry.child? .type <;> simp [h.typeOf]

theorem resultTypes (d : Declarations) (result : Option Tree) :
    d.resultTypes (result.map f) = d.resultTypes result := by
  cases result with
  | none => rfl
  | some result =>
    rw [Option.map_some, Declarations.resultTypes, Declarations.resultTypes, h.kind]
    split
    · rename_i hkind
      rw [h.parts result (by simp [hkind]), List.flatMap_map]
      simp only [h.resultEntry]
    · rw [h.typeOf]

theorem receiverName? (receiver : Tree) : receiverName? (f receiver) = receiverName? receiver := by
  have hfind : (f receiver).parts.find? (·.kind = .parameterDeclaration) =
      (receiver.parts.find? (·.kind = .parameterDeclaration)).map f := by
    rw [Tree.parts, Tree.parts, List.find?_filter, List.find?_filter]
    refine h.find? receiver (fun u => by rw [h.isNamed, h.kind]) fun u hu => ?_
    rw [isLoose, Bool.and_eq_true, Bool.or_eq_true, Bool.or_eq_true, decide_eq_true_eq,
      decide_eq_true_eq, decide_eq_true_eq] at hu
    rcases hu.2 with (hkind | hkind) | hkind <;> simp [hkind]
  unfold Declarations.receiverName?
  rw [hfind]
  cases receiver.parts.find? (·.kind = .parameterDeclaration) with
  | none => rfl
  | some parameter =>
    simp only [Option.map_some, Option.bind_eq_bind, Option.bind_some, h.child?, Option.bind_map,
      Function.comp_def, h.baseName?]

theorem addSignature (d : Declarations) (node : Tree) :
    d.addSignature (f node) = d.addSignature node := by
  unfold Declarations.addSignature
  simp only [h.kind, h.child?, h.resultTypes, Option.bind_map, Function.comp_def, h.receiverName?]
  cases hname : node.child? .name with
  | none => rfl
  | some name => simp only [Option.map_some, h.text_of_child? hname rfl]

/-! ## Packages and imports -/

theorem importSpecs (t : Tree) : importSpecs (f t) = (importSpecs t).map f := by
  have hbelow : ∀ c ∈ t.children, Go.importSpecs (f c) = (Go.importSpecs c).map f := fun c hc =>
    have := sizeOf_lt_of_mem_children hc
    importSpecs c
  have hfilter : (f t).children.filter isImport = (t.children.filter isImport).map f := by
    refine h.filter t _ (fun u => by rw [isImport, isImport, h.kind]) fun u hu => ?_
    rw [isLoose, Bool.and_eq_true, Bool.or_eq_true, Bool.or_eq_true, decide_eq_true_eq,
      decide_eq_true_eq, decide_eq_true_eq] at hu
    rcases hu.2 with (hkind | hkind) | hkind <;> simp [isImport, hkind]
  rw [importSpecs_eq, importSpecs_eq, hfilter, List.flatMap_map, List.map_flatMap]
  refine List.flatMap_congr fun c hc => ?_
  rw [h.kind, hbelow c (List.mem_of_mem_filter hc)]
  split <;> rfl
termination_by sizeOf t

theorem importBinding? (hwords : ∀ t, (f t).text = t.text) (spec : Tree) :
    importBinding? (f spec) = importBinding? spec := by
  unfold Go.importBinding?
  rw [h.child?, h.child?]
  cases spec.child? .path <;> cases spec.child? .name <;> simp [hwords, h.kind]

end Tree.Retains

/-! ## Files -/

namespace Tree

/-- Package clauses and imports, in which even literals are read. -/
def isHeading (t : Tree) : Bool := t.kind = .packageClause || t.kind = .importDeclaration

/-- Changes the nodes at the top level of a file, the headings in a way of their own. -/
def changed (g f : Tree → Tree) (t : Tree) : Tree := if t.isHeading then g t else f t

namespace Retains

open Declarations

variable {f g : Tree → Tree} (h : Retains f) (hg : Retains g) (hwords : ∀ t, (g t).text = t.text)
include h hg

theorem kind_changed (t : Tree) : (changed g f t).kind = t.kind := by
  unfold changed
  split
  · exact hg.kind t
  · exact h.kind t

/-- Nodes of a kind at the top level. -/
theorem filter_changed (ts : List Tree) (kind : Kind) {k : Tree → Tree}
    (hk : ∀ t, t.kind = kind → changed g f t = k t) :
    (ts.map (changed g f)).filter (·.kind = kind) = (ts.filter (·.kind = kind)).map k := by
  rw [List.filter_map]
  simp only [Function.comp_def, h.kind_changed hg]
  exact List.map_congr_left fun t ht => hk t (of_decide_eq_true (List.mem_filter.1 ht).2)

theorem typeSpecs (ts : List Tree) :
    typeSpecs (ts.map (changed g f)) = (typeSpecs ts).map f := by
  have hdeclarations : ∀ t ∈ ts.filter (·.kind = .typeDeclaration), (f t).parts = t.parts.map f := by
    intro t ht
    refine h.parts t ?_
    rw [of_decide_eq_true (List.mem_filter.1 ht).2]
    simp
  have hplain : ∀ t : Tree, t.kind = .typeDeclaration → changed g f t = f t := by
    intro t ht
    simp [changed, isHeading, ht]
  unfold Declarations.typeSpecs
  rw [h.filter_changed hg ts .typeDeclaration hplain, List.flatMap_map,
    List.flatMap_congr hdeclarations, ← List.map_flatMap, List.filter_map]
  simp only [Function.comp_def, h.kind]

theorem addTypes (d : Declarations) (ts : List Tree) :
    d.addTypes (ts.map (changed g f)) = d.addTypes ts := by
  unfold Declarations.addTypes
  simp only [h.typeSpecs hg, List.foldl_map, h.addTypeName, h.addType]

theorem addSignature_changed (d : Declarations) (t : Tree) :
    d.addSignature (changed g f t) = d.addSignature t := by
  unfold changed
  split
  · exact hg.addSignature d t
  · exact h.addSignature d t

include hwords

theorem packageName (ts : List Tree) : packageName (ts.map (changed g f)) = packageName ts := by
  have hheading : ∀ t : Tree, t.kind = .packageClause → changed g f t = g t := by
    intro t ht
    simp [changed, isHeading, ht]
  have hhead : ∀ clause ∈ ts.filter (·.kind = .packageClause),
      (g clause).parts.head?.map Tree.text = clause.parts.head?.map Tree.text := by
    intro clause hclause
    refine hg.head?_parts ?_ fun c _ => hwords c
    rw [of_decide_eq_true (List.mem_filter.1 hclause).2]
    simp
  unfold Declarations.packageName
  simp only [h.filter_changed hg ts .packageClause hheading, List.filterMap_map, Function.comp_def]
  rw [List.filterMap_congr hhead]

theorem importTable (ts : List Tree) :
    ImportTable.ofTrees (ts.map (changed g f)) = ImportTable.ofTrees ts := by
  have hheading : ∀ t : Tree, t.kind = .importDeclaration → changed g f t = g t := by
    intro t ht
    simp [changed, isHeading, ht]
  unfold ImportTable.ofTrees
  rw [h.filter_changed hg ts .importDeclaration hheading, List.flatMap_map]
  simp only [hg.importSpecs]
  rw [← List.map_flatMap, List.filterMap_map]
  simp only [Function.comp_def, hg.importBinding? hwords]

/-- **A changed file declares what the file declares**, if its headings keep their texts. -/
theorem ofTrees (ts : List Tree) : ofTrees (ts.map (changed g f)) = ofTrees ts := by
  unfold Declarations.ofTrees
  simp only [h.packageName hg hwords, h.importTable hg hwords, h.addTypes hg, List.foldl_map,
    h.addSignature_changed hg]

end Retains

end Tree

end LogStyle.Go
