import LogStyle.Go.Lowering
import LogStyle.Proofs.Declared
import LogStyle.Proofs.Expressions

/-!
# What is used of a type

Of what a declared type stands for, only one thing is ever asked: whether it is a text. The core of a
type keeps no more than that. What is looked up does not depend on the rest.

* `StaticType.core`: a type, of which only is kept what is used.
* `Declarations.IsCore`: declarations that say as much as others, as far as it is used.
* `Declarations.IsCore.typeOf`: then a node denotes the core of the type that it denotes.
* `Meaning.callResults_core`, `Meaning.selected?_core`: what is known of a call and of a selector.
* `LoggingApi.resolve?_core`: **the message of a call is found from the core of what is known.**
-/

namespace LogStyle

/-! ## Cores of types and tables -/

namespace Bindings

variable {κ : Type u} {α : Type v} {β : Type w}

/-- Changes the values that are bound. -/
def mapValues (f : α → β) (b : Bindings κ α) : Bindings κ β :=
  ⟨b.entries.map fun entry => (entry.1, f entry.2)⟩

@[simp] theorem mapValues_insert (f : α → β) (b : Bindings κ α) (k : κ) (a : α) :
    (b.insert k a).mapValues f = (b.mapValues f).insert k (f a) := rfl

variable [DecidableEq κ]

@[simp] theorem get?_mapValues (f : α → β) (b : Bindings κ α) (k : κ) :
    (b.mapValues f).get? k = (b.get? k).map f := by
  obtain ⟨entries⟩ := b
  unfold get? mapValues
  dsimp only
  induction entries with
  | nil => rfl
  | cons entry entries ih =>
    rw [List.map_cons, find?, find?]
    split
    · rfl
    · exact ih

end Bindings

namespace StaticType

/-- What is used of the type that a declared type stands for: whether it is a text. -/
def plain (t : StaticType) : StaticType := if t.isStringLike then .string else .other ""

/-- A type, of which only is kept what is used. -/
def core : StaticType → StaticType
  | string => string
  | named package name underlying => named package name underlying.plain
  | pointer target => pointer target.core
  | other description => other description

@[simp] theorem isStringLike_plain (t : StaticType) : t.plain.isStringLike = t.isStringLike := by
  unfold plain
  split <;> simp_all [isStringLike]

theorem plain_of_isStringLike {t : StaticType} (h : t.isStringLike = false) : t.plain = .other "" := by
  simp [plain, h]

@[simp] theorem isStringLike_core (t : StaticType) : t.core.isStringLike = t.isStringLike := by
  cases t <;> simp [core, isStringLike]

@[simp] theorem plain_core (t : StaticType) : t.core.plain = t.plain := by
  rw [plain, isStringLike_core, plain]

theorem any_isStringLike_core (t : Option StaticType) :
    (t.map core).any isStringLike = t.any isStringLike := by
  cases t <;> simp

end StaticType

def Referent.core : Referent → Referent
  | .value type => .value type.core
  | .function f => .function f
  | .package path => .package path

def TypeTable.core (t : TypeTable) : TypeTable where
  uses := t.uses.mapValues Referent.core
  selections := t.selections.mapValues Referent.core
  types := t.types.mapValues StaticType.core

namespace LoggingApi

theorem calledFunction?_core (t : TypeTable) (e : Expr) :
    calledFunction? t.core.resolver e = calledFunction? t.resolver e := by
  cases e with
  | select id span operand field =>
    simp only [calledFunction?, TypeTable.resolver, TypeTable.core, Bindings.get?_mapValues]
    rcases t.selections.get? id with _ | _ | _ | _
    · rcases t.uses.get? field.id with _ | _ | _ | _ <;> rfl
    all_goals rfl
  | ident id span name =>
    simp only [calledFunction?, TypeTable.resolver, TypeTable.core, Bindings.get?_mapValues]
    rcases t.uses.get? id with _ | _ | _ | _ <;> rfl
  | _ => rfl

theorem isText_core (t : TypeTable) (e : Expr) :
    isText t.core.resolver e = isText t.resolver e := by
  simp only [isText, TypeTable.resolver, TypeTable.core, Bindings.get?_mapValues,
    StaticType.any_isStringLike_core]

/-- The message of a call is found from the core of what is known. -/
theorem resolve?_core (t : TypeTable) (e : Expr) :
    resolve? t.core.resolver e = resolve? t.resolver e := by
  cases e with
  | call id span callee args => simp only [resolve?, calledFunction?_core, isText_core]
  | _ => rfl

end LoggingApi

namespace Go

open Declarations (Member)

theorem target_core (t : StaticType) : target t.core = (target t).core := by
  induction t with
  | pointer t ih => rw [StaticType.core, target, target, ih]
  | _ => rfl

/-! ## Cores of declarations -/

/-- The types that a node denotes for two files are related if those of the name behind it are. -/
theorem Declarations.typeOf_related {R : StaticType → StaticType → Prop} {d d' : Declarations}
    (hother : ∀ word, R (.other word) (.other word))
    (hpointer : ∀ target target', R target' target → R (.pointer target') (.pointer target))
    (hqualified : ∀ t, R (d'.typeQualified t) (d.typeQualified t)) (t : Tree)
    (hname : ∀ name ∈ baseName? t, R (d'.typeNamed name) (d.typeNamed name)) :
    R (d'.typeOf t) (d.typeOf t) := by
  have hbelow : ∀ (u : Option Tree) (word : String), (∀ v ∈ u, v ∈ t.children) →
      (∀ name ∈ u.bind baseName?, R (d'.typeNamed name) (d.typeNamed name)) →
        R ((u.map d'.typeOf).getD (.other word)) ((u.map d.typeOf).getD (.other word)) := by
    rintro (_ | u) word hu hname
    · exact hother word
    · have := Tree.sizeOf_lt_of_mem_children (hu u rfl)
      exact typeOf_related hother hpointer hqualified u hname
  have hfirst := hbelow t.parts.head? "" fun u hu =>
    Tree.mem_children_of_mem_parts (List.mem_of_mem_head? hu)
  have hgeneric := hbelow (t.child? .type) "generic" fun u hu => Tree.mem_children_of_child? hu
  rw [baseName?_eq] at hname
  rw [typeOf_eq, typeOf_eq d]
  generalize t.kind = kind at hname
  cases kind
  case typeIdentifier => exact hname t.text rfl
  case pointerType => exact hpointer _ _ (hfirst hname)
  case qualifiedType => exact hqualified t
  case parenthesizedType => exact hfirst hname
  case genericType => exact hgeneric hname
  all_goals exact hother _
termination_by sizeOf t

def LocalType.core (t : LocalType) : LocalType where
  underlying := some (t.underlying.getD (.other "named")).plain
  fields := t.fields.mapValues StaticType.core
  embedded := t.embedded.map StaticType.core

namespace Declarations

def core (d : Declarations) : Declarations where
  package := d.package
  imports := d.imports
  types := d.types.mapValues LocalType.core
  aliases := d.aliases.mapValues StaticType.core
  functions := d.functions.mapValues (List.map StaticType.core)
  methods := d.methods.mapValues (List.map StaticType.core)

/-- Declarations that say about each name what others say about it, as far as it is used. -/
structure IsCore (c d : Declarations) : Prop where
  package : c.package = d.package
  imports : c.imports = d.imports
  types : ∀ name, c.types.get? name = (d.types.get? name).map LocalType.core
  aliases : ∀ name, c.aliases.get? name = (d.aliases.get? name).map StaticType.core
  functions : ∀ name, c.functions.get? name = (d.functions.get? name).map (List.map StaticType.core)
  methods : ∀ key, c.methods.get? key = (d.methods.get? key).map (List.map StaticType.core)

theorem isCore_core (d : Declarations) : d.core.IsCore d where
  package := rfl
  imports := rfl
  types := d.types.get?_mapValues _
  aliases := d.aliases.get?_mapValues _
  functions := d.functions.get?_mapValues _
  methods := d.methods.get?_mapValues _

def Member.core : Member → Member
  | .field type => .field type.core
  | .method f => .method f

namespace IsCore

variable {c d : Declarations} (h : c.IsCore d)
include h

theorem contains_types (name : String) : c.types.contains name = d.types.contains name := by
  rw [Bindings.contains, h.types, Option.isSome_map, Bindings.contains]

theorem contains_functions (name : String) :
    c.functions.contains name = d.functions.contains name := by
  rw [Bindings.contains, h.functions, Option.isSome_map, Bindings.contains]

theorem contains_methods (key : String × String) : c.methods.contains key = d.methods.contains key := by
  rw [Bindings.contains, h.methods, Option.isSome_map, Bindings.contains]

theorem localNamed {name : String} (hname : d.types.contains name = true) :
    c.localNamed name = (d.localNamed name).core := by
  obtain ⟨layout, hlayout⟩ := Option.isSome_iff_exists.1 hname
  simp [Declarations.localNamed, h.types, h.package, hlayout, StaticType.core, LocalType.core]

theorem typeNamed (name : String) : c.typeNamed name = (d.typeNamed name).core := by
  unfold Declarations.typeNamed
  rw [h.aliases, h.contains_types]
  cases d.aliases.get? name with
  | some target => rfl
  | none =>
    by_cases hname : d.types.contains name = true
    · simp [hname, h.localNamed hname]
    · simp only [Option.map_none, hname, Bool.false_eq_true, if_false]
      split <;> rfl

theorem typeQualified (t : Tree) : c.typeQualified t = (d.typeQualified t).core := by
  unfold Declarations.typeQualified
  rw [h.imports]
  cases (t.child? .package).bind fun p => d.imports.get? p.text with
  | none => rfl
  | some package => cases t.child? .name <;> rfl

/-- A node denotes the core of the type that it denotes. -/
theorem typeOf (t : Tree) : c.typeOf t = (d.typeOf t).core :=
  typeOf_related (R := fun a b => a = b.core) (fun _ => rfl)
    (fun _ _ htarget => congrArg StaticType.pointer htarget) h.typeQualified t
    fun name _ => h.typeNamed name

theorem resultEntry (entry : Tree) :
    c.resultEntry entry = (d.resultEntry entry).map StaticType.core := by
  unfold Declarations.resultEntry
  cases entry.child? .type with
  | none => rfl
  | some type => simp only [List.map_replicate, h.typeOf]

theorem resultTypes (result : Option Tree) :
    c.resultTypes result = (d.resultTypes result).map StaticType.core := by
  cases result with
  | none => rfl
  | some result =>
    unfold Declarations.resultTypes
    dsimp only
    split
    · rw [List.map_flatMap]
      exact List.flatMap_congr fun entry _ => h.resultEntry entry
    · rw [h.typeOf, List.map_singleton]

/-- Functions and methods are added alike. -/
theorem addSignature (node : Tree) : (c.addSignature node).IsCore (d.addSignature node) := by
  have hinsert : ∀ {κ : Type} [DecidableEq κ] {b b' : Bindings κ (List StaticType)} (key key' : κ)
      (results : List StaticType),
      (∀ key, b'.get? key = (b.get? key).map (List.map StaticType.core)) →
        (b'.insert key (results.map StaticType.core)).get? key' =
          ((b.insert key results).get? key').map (List.map StaticType.core) := by
    intro κ _ b b' key key' results hb
    rw [Bindings.get?_insert, Bindings.get?_insert]
    split
    · rfl
    · exact hb key'
  unfold Declarations.addSignature
  rw [h.resultTypes]
  cases node.child? .name with
  | none => exact h
  | some name =>
    dsimp only
    split
    · exact { h with functions := fun other => hinsert _ other _ h.functions }
    · split
      · exact { h with methods := fun key => hinsert _ key _ h.methods }
      · exact h
    · exact h

theorem foldl_addSignature (nodes : List Tree) :
    (nodes.foldl Declarations.addSignature c).IsCore (nodes.foldl Declarations.addSignature d) := by
  induction nodes generalizing c d with
  | nil => exact h
  | cons node nodes ih => exact ih (h.addSignature node)

/-- The fields of a type of the file. -/
theorem fields (typeName name : String) : (c.types.get? typeName).bind (·.fields.get? name) =
    ((d.types.get? typeName).bind (·.fields.get? name)).map StaticType.core := by
  rw [h.types]
  cases d.types.get? typeName <;> simp [LocalType.core]

/-- The types that a type of the file embeds. -/
theorem embedded (typeName : String) : ((c.types.get? typeName).map (·.embedded)).getD [] =
    (((d.types.get? typeName).map (·.embedded)).getD []).map StaticType.core := by
  rw [h.types]
  cases d.types.get? typeName <;> simp [LocalType.core]

theorem memberWithin? (name : String) (depth : Nat) (type : StaticType) :
    c.memberWithin? name depth type.core = (d.memberWithin? name depth type).map Member.core := by
  induction depth generalizing type with
  | zero =>
    rw [Declarations.memberWithin?, Declarations.memberWithin?, target_core]
    cases target type with
    | named package typeName underlying =>
      simp only [StaticType.core, h.package, h.contains_methods, h.fields typeName name]
      split
      · rfl
      · cases (d.types.get? typeName).bind (·.fields.get? name) <;> simp [Member.core]
    | _ => rfl
  | succ depth ih =>
    have hembedded : ∀ types : List StaticType,
        (types.map StaticType.core).findSome? (c.memberWithin? name depth) =
          (types.findSome? (d.memberWithin? name depth)).map Member.core := by
      intro types
      rw [List.findSome?_map, List.map_findSome?]
      congr 1
      funext type
      exact ih type
    rw [Declarations.memberWithin?, Declarations.memberWithin?, target_core]
    cases target type with
    | named package typeName underlying =>
      simp only [StaticType.core, h.package, h.contains_methods, h.fields typeName name,
        h.embedded typeName, hembedded]
      split
      · rfl
      · cases (d.types.get? typeName).bind (·.fields.get? name) with
        | some type => rfl
        | none =>
          simp only [Option.map_none]
          split
          · rfl
          · rw [Option.map_or]
            rfl
    | _ => rfl

theorem member? (type : StaticType) (name : String) :
    c.member? type.core name = (d.member? type name).map Member.core :=
  h.memberWithin? name embeddingLimit type

end IsCore

end Declarations

/-! ## Cores of states -/

def Frame.core (frame : Frame) : Frame := frame.mapValues (Option.map StaticType.core)

namespace Scopes

def core (s : Scopes) : Scopes where
  nested := s.nested.map Frame.core
  file := s.file.core

theorem lookup_core (s : Scopes) (name : String) :
    s.core.lookup name = (s.lookup name).map (Option.map StaticType.core) := by
  have hframes : s.core.frames = s.frames.map Frame.core := by simp [core, frames]
  rw [lookup, hframes, List.findSome?_map, lookup, List.map_findSome?]
  congr 1
  funext frame
  exact Bindings.get?_mapValues _ frame name

theorem declare_core (s : Scopes) (name : String) (type : Option StaticType) :
    (s.declare name type).core = s.core.declare name (type.map StaticType.core) := by
  unfold declare
  split
  · rfl
  · obtain ⟨nested, file⟩ := s
    cases nested <;> rfl

theorem pop_core (s : Scopes) : s.pop.core = s.core.pop := by
  simp [pop, core]

end Scopes

def State.core (s : State) : State where
  next := s.next
  table := s.table.core
  results := s.results.mapValues (List.map StaticType.core)
  scopes := s.scopes.core

namespace State

theorem use_core (s : State) (id : NodeId) :
    s.core.table.uses.get? id = (s.table.uses.get? id).map Referent.core :=
  s.table.uses.get?_mapValues _ id

theorem selection_core (s : State) (id : NodeId) :
    s.core.table.selections.get? id = (s.table.selections.get? id).map Referent.core :=
  s.table.selections.get?_mapValues _ id

theorem type_core (s : State) (id : NodeId) :
    s.core.table.types.get? id = (s.table.types.get? id).map StaticType.core :=
  s.table.types.get?_mapValues _ id

theorem note_type_core (s : State) (id : NodeId) :
    (s.core.note id).type = (s.note id).type.map StaticType.core :=
  s.type_core id

theorem results_core (s : State) (id : NodeId) :
    s.core.results.get? id = (s.results.get? id).map (List.map StaticType.core) :=
  s.results.get?_mapValues _ id

theorem lookup_core (s : State) (name : String) :
    s.core.scopes.lookup name = (s.scopes.lookup name).map (Option.map StaticType.core) :=
  s.scopes.lookup_core name

end State

/-! ## What is looked up -/

namespace Known

theorem lookup_fixed {α β : Type} [BEq α] {f : β → β} {entries : List (α × β)}
    (h : ∀ entry ∈ entries, f entry.2 = entry.2) (key : α) :
    (entries.lookup key).map f = entries.lookup key := by
  induction entries with
  | nil => rfl
  | cons entry entries ih =>
    rw [List.lookup_cons]
    split
    · exact congrArg some (h entry List.mem_cons_self)
    · exact ih fun entry hentry => h entry (List.mem_cons_of_mem _ hentry)

/-- What well-known functions give are cores. -/
theorem functionResults?_core (package name : String) :
    (functionResults? package name).map (List.map StaticType.core) = functionResults? package name := by
  have hfixed : ∀ entry ∈ functions, entry.2.map StaticType.core = entry.2 := by decide
  exact lookup_fixed hfixed _

theorem methodResults?_core (package receiver name : String) :
    (methodResults? package receiver name).map (List.map StaticType.core) =
      methodResults? package receiver name := by
  have hfixed : ∀ entry ∈ methods, entry.2.map StaticType.core = entry.2 := by decide
  exact lookup_fixed hfixed _

end Known

namespace Meaning

variable {c d : Declarations} (h : c.IsCore d) (s : State)

theorem sumType_core (left right : Option StaticType) :
    sumType (left.map StaticType.core) (right.map StaticType.core) =
      (sumType left right).map StaticType.core := by
  unfold sumType
  rw [StaticType.any_isStringLike_core, StaticType.any_isStringLike_core]
  split
  · rfl
  · split <;> rfl

theorem unaryType_core (operator : String) (operand : Option StaticType) :
    unaryType operator (operand.map StaticType.core) =
      (unaryType operator operand).map StaticType.core := by
  by_cases haddress : operator = "&"
  · subst haddress
    cases operand <;> rfl
  · by_cases htarget : operator = "*"
    · subst htarget
      rcases operand with _ | _ | _ | _ | _ <;> rfl
    · simp [unaryType, haddress, htarget]

theorem packageOf?_core (operand : Expr) :
    packageOf? s.core.table operand = packageOf? s.table operand := by
  cases operand with
  | ident id span name =>
    simp only [packageOf?, s.use_core]
    rcases s.table.uses.get? id with _ | _ | _ | _ <;> rfl
  | _ => rfl

theorem valueTypes_core (values : List Expr) (names : Nat) :
    valueTypes s.core values names = (valueTypes s values names).map (Option.map StaticType.core) := by
  rcases values with _ | ⟨first, _ | ⟨second, rest⟩⟩
  · rfl
  · unfold valueTypes
    simp only [s.type_core, s.results_core]
    split
    · rw [List.map_map]
      refine List.map_congr_left fun i _ => ?_
      cases s.results.get? first.stripParens.id <;> simp
    · rfl
  · simp [valueTypes, s.type_core]

include h

theorem callResults_core (callee : Expr) :
    callResults c s.core callee = (callResults d s callee).map StaticType.core := by
  unfold callResults
  cases callee.stripParens with
  | ident id span name =>
    simp only [s.lookup_core, Option.isSome_map, h.functions, h.aliases, h.contains_types]
    split
    · rfl
    · cases d.functions.get? name with
      | some results => rfl
      | none =>
        cases d.aliases.get? name with
        | some type => rfl
        | none =>
          simp only [Option.map_none]
          split
          · rename_i hname
            rw [h.localNamed hname, List.map_singleton]
          · split <;> rfl
  | select id span operand field =>
    have hgetD : ∀ results : Option (List StaticType),
        (results.map (List.map StaticType.core)).getD [] = (results.getD []).map StaticType.core := by
      intro results
      cases results <;> rfl
    simp only [s.use_core, s.selection_core]
    rcases s.table.uses.get? field.id with _ | ⟨_ | package, receiver, name⟩ | type | path
    case some.function.none => rfl
    case some.function.some =>
      refine Eq.trans ?_ (hgetD (Known.functionResults? package name))
      rw [Known.functionResults?_core]
      rfl
    -- any other name is a member that is selected through a value
    all_goals
      rcases s.table.selections.get? id with _ | ⟨_ | package, _ | receiver, name⟩ | type | path
      case some.function.some.some =>
        simp only [Option.map_some, Option.map_none, Referent.core, h.package, h.methods, hgetD]
        split
        · rfl
        · rw [← hgetD, Known.methodResults?_core]
      all_goals rfl
  | _ => rfl

theorem selected?_core (operand : Expr) (name : String) :
    selected? c s.core operand name = (selected? d s operand name).map Declarations.Member.core := by
  unfold selected?
  rw [packageOf?_core]
  cases packageOf? s.table operand with
  | some package => rfl
  | none =>
    dsimp only
    rw [s.note_type_core]
    cases (s.note operand.id).type with
    | none => rfl
    | some type => exact h.member? type name

theorem selectedUse?_core (operand : Expr) (name : String) :
    selectedUse? c s.core operand name = (selectedUse? d s operand name).map Referent.core := by
  unfold selectedUse?
  rw [packageOf?_core, selected?_core h]
  cases packageOf? s.table operand with
  | some package => rfl
  | none => rcases selected? d s operand name with _ | _ | _ <;> rfl

end Meaning

end Go

end LogStyle
