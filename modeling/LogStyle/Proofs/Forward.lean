import LogStyle.Proofs.Cores
import LogStyle.Proofs.Masking

/-!
# Types that are declared later

The types of a file are described one after the other, so that what a description says about a type
that is mentioned in it depends on whether that type has been described. For most types it does not:
a struct or a map counts for no more than its name. It does for aliases and for types that stand for a
named type, which a description takes over as they are known by then.

* `Tree.relies`: whether the description of a type may depend on that of another one.
* `Tree.Reordered`: declarations in another order that keeps a description and those on which it
  relies on the same side of each other.
* `Declarations.entry`: what is known about a name, as far as it is used.
* `Declarations.entry_addTypes`: **types that are described in another order come out the same, if a
  description and those on which it relies keep their order.**
-/

namespace LogStyle.Go

namespace Tree

/-- The name that a declaration of a type gives. -/
def declared? (spec : Tree) : Option String := (spec.child? .name).map text

/-- The names of types in the description of a type. -/
def mentions (spec : Tree) : List String :=
  match spec.child? .type with
  | none => []
  | some type =>
    if spec.kind ≠ .typeAlias ∧ type.kind = .structType then
      ((type.parts.filter (·.kind = .fieldDeclarationList)).flatMap parts).filterMap fun field =>
        (field.child? .type).bind Declarations.baseName?
    else (Declarations.baseName? type).toList

/-- Whether the name of a type says more once the type is described: it is an alias or stands for a
named type. -/
def isTelling (spec : Tree) : Bool :=
  spec.kind = .typeAlias || ((spec.child? .type).bind Declarations.baseName?).isSome

/-- Whether the description of a type may depend on that of another one. -/
def relies (spec other : Tree) : Bool := other.isTelling && other.declared?.any spec.mentions.contains

end Tree

namespace Declarations

/-! ## What is known about a name -/

/-- What is known about a name, as a declared type and as an alias, as far as it is used. -/
def entry (d : Declarations) (name : String) : Option LocalType × Option StaticType :=
  ((d.types.get? name).map LocalType.core, (d.aliases.get? name).map StaticType.core)

variable {c d d' : Declarations} {name : String} {spec : Tree} {specs : List Tree}

/-- Declarations that differ in their types only. -/
structure Beside (d' d : Declarations) : Prop where
  package : d'.package = d.package
  imports : d'.imports = d.imports
  functions : d'.functions = d.functions
  methods : d'.methods = d.methods

theorem Beside.refl (d : Declarations) : d.Beside d := ⟨rfl, rfl, rfl, rfl⟩

theorem Beside.symm (h : d'.Beside d) : d.Beside d' :=
  ⟨h.package.symm, h.imports.symm, h.functions.symm, h.methods.symm⟩

theorem Beside.trans (h : d'.Beside d) (h' : d.Beside c) : d'.Beside c where
  package := h.package.trans h'.package
  imports := h.imports.trans h'.imports
  functions := h.functions.trans h'.functions
  methods := h.methods.trans h'.methods

/-- A name that denotes the same type, as far as it is used. -/
def SameType (d' d : Declarations) (name : String) : Prop :=
  (d'.typeNamed name).core = (d.typeNamed name).core

theorem sameType_of_entry (h : d'.Beside d) (hentry : d'.entry name = d.entry name) :
    SameType d' d name := by
  obtain ⟨htypes, haliases⟩ := Prod.mk.inj hentry
  have hcore : d'.core.types.get? name = d.core.types.get? name ∧
      d'.core.aliases.get? name = d.core.aliases.get? name := by
    simp [core, htypes, haliases]
  have hpackage : d'.core.package = d.core.package := h.package
  rw [SameType, ← (isCore_core d').typeNamed, ← (isCore_core d).typeNamed]
  unfold typeNamed localNamed Bindings.contains
  rw [hcore.1, hcore.2, hpackage]

/-- The type that a node denotes depends on the name behind it. -/
theorem typeOf_congr (h : d'.Beside d) (t : Tree) (hname : ∀ name ∈ baseName? t, SameType d' d name) :
    (d'.typeOf t).core = (d.typeOf t).core := by
  have hqualified : ∀ t, d'.typeQualified t = d.typeQualified t := by
    intro t
    unfold typeQualified
    rw [h.imports]
  exact typeOf_related (R := fun a b => a.core = b.core) (fun _ => rfl)
    (fun _ _ htarget => congrArg StaticType.pointer htarget)
    (fun t => congrArg StaticType.core (hqualified t)) t hname

/-- A type without a name behind it is no text. -/
theorem isStringLike_typeOf (d : Declarations) (t : Tree) (h : baseName? t = none) :
    (d.typeOf t).isStringLike = false := by
  have hqualified : ∀ t, (d.typeQualified t).isStringLike = false := by
    intro t
    unfold typeQualified
    dsimp only
    split <;> rfl
  refine typeOf_related (R := fun a _ => a.isStringLike = false) (fun _ => rfl) (fun _ _ _ => rfl)
    hqualified (d := d) t fun name hname => ?_
  rw [h] at hname
  cases hname

/-! ## One description -/

theorem embeddedName?_core (t : StaticType) : embeddedName? t.core = embeddedName? t := by
  rw [embeddedName?, target_core, embeddedName?]
  cases target t <;> rfl

theorem insertAll_mapValues {α β : Type} (f : α → β) (a : α) (names : List String)
    (fields : Bindings String α) :
    (names.foldl (fun fields name => fields.insert name a) fields).mapValues f =
      names.foldl (fun fields name => fields.insert name (f a)) (fields.mapValues f) := by
  induction names generalizing fields with
  | nil => rfl
  | cons name names ih => rw [List.foldl_cons, List.foldl_cons, ih, Bindings.mapValues_insert]

/-- A layout with further fields of a type, which is embedded if they have no names. -/
def extended (layout : LocalType) (names : List String) (type : StaticType) : LocalType :=
  match names with
  | [] =>
    { layout with
      fields := match embeddedName? type with
        | some name => layout.fields.insert name type
        | none => layout.fields
      embedded := layout.embedded ++ [type] }
  | names =>
    let fields := names.foldl (fun fields name => fields.insert name type) layout.fields
    { layout with fields := fields }

theorem extended_core {layout layout' : LocalType} {type type' : StaticType}
    (h : layout'.core = layout.core) (htype : type'.core = type.core) (names : List String) :
    (extended layout' names type').core = (extended layout names type).core := by
  obtain ⟨hunderlying, hfields, hembedded⟩ := LocalType.mk.inj h
  have hname : embeddedName? type' = embeddedName? type := by
    rw [← embeddedName?_core, htype, embeddedName?_core]
  cases names with
  | nil =>
    simp only [extended, LocalType.core, List.map_append, List.map_cons, List.map_nil, hunderlying,
      hembedded, htype, hname]
    cases embeddedName? type with
    | none => simp only [hfields]
    | some name => simp only [Bindings.mapValues_insert, hfields, htype]
  | cons name names =>
    simp only [extended, LocalType.core, insertAll_mapValues, hunderlying, hfields, hembedded, htype]

theorem addField_eq (d : Declarations) (layout : LocalType) (field : Tree) :
    d.addField layout field =
      match field.kind, field.child? .type with
      | .fieldDeclaration, some node => extended layout (field.childTexts .name) (d.typeOf node)
      | _, _ => layout := by
  unfold addField extended
  rfl

theorem addField_congr (h : d'.Beside d) {layout layout' : LocalType}
    (hlayout : layout'.core = layout.core) (field : Tree)
    (hname : ∀ name ∈ (field.child? .type).bind baseName?, SameType d' d name) :
    (d'.addField layout' field).core = (d.addField layout field).core := by
  rw [addField_eq, addField_eq]
  split
  · rename_i node _ hnode
    rw [hnode] at hname
    exact extended_core hlayout (typeOf_congr h node hname) _
  · exact hlayout

theorem addFields_congr (h : d'.Beside d) (fields : List Tree) {layout layout' : LocalType}
    (hlayout : layout'.core = layout.core)
    (hname : ∀ name ∈ fields.filterMap fun field => (field.child? .type).bind baseName?,
      SameType d' d name) :
    (fields.foldl d'.addField layout').core = (fields.foldl d.addField layout).core := by
  induction fields generalizing layout layout' with
  | nil => exact hlayout
  | cons field fields ih =>
    simp only [List.mem_filterMap, List.mem_cons, exists_eq_or_imp] at hname
    refine ih (addField_congr h hlayout field fun name hfield => hname name (.inl hfield)) ?_
    intro name hfields
    exact hname name (.inr (List.mem_filterMap.1 hfields))

theorem underlying_structLayout (d : Declarations) (struct : Tree) :
    (d.structLayout struct).underlying = some (.other "struct") := by
  have hfold : ∀ (fields : List Tree) (layout : LocalType),
      (fields.foldl d.addField layout).underlying = layout.underlying := by
    intro fields
    induction fields with
    | nil => exact fun layout => rfl
    | cons field fields ih =>
      intro layout
      rw [List.foldl_cons, ih, addField_eq]
      split
      · unfold extended
        split <;> rfl
      · rfl
  exact hfold _ _

/-- What a type declares under its name, apart from its name. -/
def described (d : Declarations) (type : Tree) : LocalType :=
  if type.kind = .structType then d.structLayout type else { underlying := some (d.typeOf type) }

theorem addType_alias {node type : Tree} (hnode : spec.child? .name = some node)
    (htype : spec.child? .type = some type) (hkind : spec.kind = .typeAlias) :
    d.addType spec = { d with aliases := d.aliases.insert node.text (d.typeOf type) } := by
  rw [addType, hnode, htype]
  exact if_pos hkind

theorem addType_spec {node type : Tree} (hnode : spec.child? .name = some node)
    (htype : spec.child? .type = some type) (hkind : spec.kind ≠ .typeAlias) :
    d.addType spec = { d with types := d.types.insert node.text (d.described type) } := by
  rw [addType, hnode, htype]
  exact if_neg hkind

theorem addType_of_type_none (htype : spec.child? .type = none) : d.addType spec = d := by
  rw [addType, htype]
  cases spec.child? .name <;> rfl

theorem addType_of_name_none (hnode : spec.child? .name = none) : d.addType spec = d := by
  rw [addType, hnode]

theorem addType_beside (d : Declarations) (spec : Tree) : (d.addType spec).Beside d := by
  unfold addType
  split
  · split <;> exact ⟨rfl, rfl, rfl, rfl⟩
  · exact .refl d

/-- Only the entry of the name that is declared changes. -/
theorem entry_addType_of_ne (d : Declarations) (h : spec.declared? ≠ some name) :
    (d.addType spec).entry name = d.entry name := by
  cases hnode : spec.child? .name with
  | none => rw [addType_of_name_none hnode]
  | some node =>
    have hne : name ≠ node.text := fun heq => h (by simp [Tree.declared?, hnode, heq])
    cases htype : spec.child? .type with
    | none => rw [addType_of_type_none htype]
    | some type =>
      by_cases hkind : spec.kind = .typeAlias
      · rw [addType_alias hnode htype hkind]
        simp [entry, hne]
      · rw [addType_spec hnode htype hkind]
        simp [entry, hne]

/-- The entry that a description makes depends on the names in it. -/
theorem entry_addType_congr (h : d'.Beside d) (hentry : d'.entry name = d.entry name)
    (hmentions : ∀ other ∈ spec.mentions, SameType d' d other) :
    (d'.addType spec).entry name = (d.addType spec).entry name := by
  obtain ⟨htypes, haliases⟩ := Prod.mk.inj hentry
  cases hnode : spec.child? .name with
  | none => rw [addType_of_name_none hnode, addType_of_name_none hnode, hentry]
  | some node =>
    cases htype : spec.child? .type with
    | none => rw [addType_of_type_none htype, addType_of_type_none htype, hentry]
    | some type =>
      rw [Tree.mentions, htype] at hmentions
      by_cases hkind : spec.kind = .typeAlias
      · have hof := typeOf_congr h type fun other hother => hmentions other (by simpa [hkind] using hother)
        rw [addType_alias hnode htype hkind, addType_alias hnode htype hkind]
        simp only [entry, Bindings.get?_insert, htypes]
        split
        · simp only [Option.map_some, hof]
        · rw [haliases]
      · have hdescribed : (d'.described type).core = (d.described type).core := by
          unfold described
          split
          · rename_i hstruct
            refine addFields_congr h _ rfl fun other hother => hmentions other ?_
            simpa [hkind, hstruct] using hother
          · rename_i hstruct
            have hof := typeOf_congr h type fun other hother =>
              hmentions other (by simpa [hstruct] using hother)
            simp only [LocalType.core, Option.getD_some]
            rw [← StaticType.plain_core, hof, StaticType.plain_core]
        rw [addType_spec hnode htype hkind, addType_spec hnode htype hkind]
        simp only [entry, Bindings.get?_insert, haliases]
        split
        · simp only [Option.map_some, hdescribed]
        · rw [htypes]

/-! ## Types that count for no more than their names -/

/-- Whether a name is that of a type which is no text. -/
def Bare (d : Declarations) (name : String) : Prop :=
  ∃ layout, d.entry name = (some layout, none) ∧ layout.underlying = some (.other "")

theorem Bare.typeNamed (h : d.Bare name) :
    (d.typeNamed name).core = .named d.package name (.other "") := by
  obtain ⟨layout, hentry, hlayout⟩ := h
  obtain ⟨htypes, haliases⟩ := Prod.mk.inj hentry
  have hcore : d.core.types.get? name = some layout ∧ d.core.aliases.get? name = none := by
    simp [core, htypes, haliases]
  rw [← (isCore_core d).typeNamed]
  unfold Declarations.typeNamed localNamed Bindings.contains
  rw [hcore.1, hcore.2]
  simp [hlayout, core]

theorem Bare.sameType (h : d.Bare name) (h' : d'.Bare name) (hbeside : d'.Beside d) :
    SameType d' d name := by
  rw [SameType, h.typeNamed, h'.typeNamed, hbeside.package]

theorem Bare.addType (h : d.Bare name) (hspec : spec.declared? = some name → spec.isTelling = false) :
    (d.addType spec).Bare name := by
  by_cases hname : spec.declared? = some name
  · have htelling := hspec hname
    rw [Tree.isTelling, Bool.or_eq_false_iff, decide_eq_false_iff_not] at htelling
    obtain ⟨node, hnode, rfl⟩ := Option.map_eq_some_iff.1 hname
    cases htype : spec.child? .type with
    | none => rwa [addType_of_type_none htype]
    | some type =>
      have hplain : ((d.described type).underlying.getD (.other "named")).plain = .other "" := by
        refine StaticType.plain_of_isStringLike ?_
        unfold described
        split
        · rw [underlying_structLayout]
          rfl
        · exact isStringLike_typeOf d type (by simpa [htype] using htelling.2)
      obtain ⟨layout, hentry, -⟩ := h
      obtain ⟨-, haliases⟩ := Prod.mk.inj hentry
      rw [addType_spec hnode htype htelling.1]
      refine ⟨(d.described type).core, ?_, ?_⟩
      · simp only [entry, Bindings.get?_insert, if_true, Option.map_some, haliases]
      · simp [LocalType.core, hplain]
  · rwa [Bare, entry_addType_of_ne d hname]

/-! ## Descriptions one after the other -/

theorem foldl_addType_beside (d : Declarations) (specs : List Tree) :
    (specs.foldl addType d).Beside d := by
  induction specs generalizing d with
  | nil => exact .refl d
  | cons spec specs ih => exact (ih _).trans (addType_beside d spec)

theorem entry_foldl_addType (d : Declarations) (h : ∀ spec ∈ specs, spec.declared? ≠ some name) :
    (specs.foldl addType d).entry name = d.entry name := by
  induction specs generalizing d with
  | nil => rfl
  | cons spec specs ih =>
    rw [List.foldl_cons, ih _ fun other hother => h other (List.mem_cons_of_mem _ hother)]
    exact entry_addType_of_ne d (h spec List.mem_cons_self)

theorem Bare.foldl_addType (h : d.Bare name)
    (hspecs : ∀ spec ∈ specs, spec.declared? = some name → spec.isTelling = false) :
    (specs.foldl Declarations.addType d).Bare name := by
  induction specs generalizing d with
  | nil => exact h
  | cons spec specs ih =>
    refine ih (h.addType (hspecs spec List.mem_cons_self)) ?_
    exact fun other hother => hspecs other (List.mem_cons_of_mem _ hother)

end Declarations

namespace Tree

/-- Declarations of types in another order, in which no name is declared twice. A description and those
on which it relies keep their order. -/
structure Reordered (specs specs' : List Tree) : Prop where
  perm : specs'.Perm specs
  nodup : (specs.filterMap declared?).Nodup
  order : specs.Pairwise fun a b => a.relies b = true ∨ b.relies a = true → [a, b].Sublist specs'

instance (specs specs' : List Tree) : Decidable (Reordered specs specs') :=
  decidable_of_iff (specs'.Perm specs ∧ (specs.filterMap declared?).Nodup ∧
      specs.Pairwise fun a b : Tree =>
        a.relies b = true ∨ b.relies a = true → [a, b].Sublist specs')
    ⟨fun h => ⟨h.1, h.2.1, h.2.2⟩, fun h => ⟨h.perm, h.nodup, h.order⟩⟩

section

variable {specs before after : List Tree} {a b : Tree} {name : String}

theorem mem_after_of_sublist (h : [a, b].Sublist (before ++ a :: after)) (ha : a ∉ before) :
    b ∈ after := by
  obtain ⟨first, second, hsplit, hfirst, hsecond⟩ := List.sublist_append_iff.1 h
  cases first with
  | nil =>
    rw [List.nil_append] at hsplit
    subst hsplit
    exact List.singleton_sublist.1 (List.cons_sublist_cons.1 hsecond)
  | cons c first =>
    obtain ⟨rfl, -⟩ := List.cons.inj hsplit
    exact absurd (hfirst.subset List.mem_cons_self) ha

theorem mem_before_of_sublist (h : [b, a].Sublist (before ++ a :: after)) (ha : a ∉ after) :
    b ∈ before := by
  have hreverse : [a, b].Sublist (after.reverse ++ a :: before.reverse) := by
    simpa using h.reverse
  simpa using mem_after_of_sublist hreverse (by simpa using ha)

/-- Of the declarations before and after that of a name, none declares the name. -/
theorem ne_of_nodup (h : ((before ++ a :: after).filterMap declared?).Nodup)
    (ha : a.declared? = some name) :
    (∀ b ∈ before, b.declared? ≠ some name) ∧ ∀ b ∈ after, b.declared? ≠ some name := by
  rw [List.Nodup, List.pairwise_filterMap, List.pairwise_append, List.pairwise_cons] at h
  obtain ⟨-, ⟨hafter, -⟩, hbefore⟩ := h
  exact ⟨fun b hb hname => hbefore b hb a List.mem_cons_self name hname name ha rfl,
    fun b hb hname => hafter b hb name ha name hname rfl⟩

theorem eq_of_declared {specs : List Tree} (h : (specs.filterMap declared?).Nodup) (ha : a ∈ specs)
    (hb : b ∈ specs) (hname : a.declared? = some name) (hname' : b.declared? = some name) : b = a := by
  obtain ⟨before, after, rfl⟩ := List.append_of_mem ha
  obtain ⟨hbefore, hafter⟩ := ne_of_nodup h hname
  rcases List.mem_append.1 hb with hb | hb
  · exact absurd hname' (hbefore b hb)
  rcases List.mem_cons.1 hb with rfl | hb
  · rfl
  · exact absurd hname' (hafter b hb)

end

namespace Reordered

variable {specs specs' before after before' after' : List Tree} {a b : Tree} {name other : String}
  (h : Reordered specs specs')
include h

theorem nodup' : (specs'.filterMap declared?).Nodup := (h.perm.filterMap declared?).nodup_iff.2 h.nodup

/-- A description on which another one relies comes before it in both orders, or its name is declared
before it in none. -/
theorem before_or (hspecs : specs = before ++ a :: after) (hspecs' : specs' = before' ++ a :: after')
    (ha : a.declared? = some name) (hb : b.declared? = some other) (hmem : b ∈ specs)
    (hrelies : a.relies b = true) : (b ∈ before ∧ b ∈ before') ∨
      ((∀ c ∈ before, c.declared? ≠ some other) ∧ ∀ c ∈ before', c.declared? ≠ some other) := by
  have hnodup := h.nodup
  have hnodup' := h.nodup'
  have horder := h.order
  rw [hspecs] at hmem hnodup horder
  rw [hspecs'] at hnodup' horder
  obtain ⟨hbefore, hafter⟩ := ne_of_nodup hnodup ha
  obtain ⟨hbefore', hafter'⟩ := ne_of_nodup hnodup' ha
  rw [List.pairwise_append, List.pairwise_cons] at horder
  rcases List.mem_append.1 hmem with hmem | hmem
  · have hsublist := horder.2.2 b hmem a List.mem_cons_self (.inr hrelies)
    exact .inl ⟨hmem, mem_before_of_sublist hsublist fun hmem => hafter' a hmem ha⟩
  rcases List.mem_cons.1 hmem with rfl | hmem
  · rw [ha] at hb
    cases hb
    exact .inr ⟨hbefore, hbefore'⟩
  · have hmem' := mem_after_of_sublist (horder.2.1.1 b hmem (.inl hrelies)) fun hmem => hbefore' a hmem ha
    -- what comes after in both orders is not declared before in any
    have hne : ∀ {before after}, ((before ++ a :: after).filterMap declared?).Nodup → b ∈ after →
        ∀ c ∈ before, c.declared? ≠ some other := by
      intro before after hnodup hmem c hc
      obtain ⟨between, rest, rfl⟩ := List.append_of_mem hmem
      have hsplit : before ++ a :: (between ++ b :: rest) = (before ++ a :: between) ++ b :: rest := by
        simp
      rw [hsplit] at hnodup
      exact (ne_of_nodup hnodup hb).1 c (List.mem_append_left _ hc)
    exact .inr ⟨hne hnodup hmem, hne hnodup' hmem'⟩

end Reordered

end Tree

namespace Declarations

open LogStyle.Go.Tree

variable {d d' : Declarations} {specs specs' : List Tree}

/-- The entry of a name that is declared is made by its description. -/
theorem entry_foldl_split {before after : List Tree} {a : Tree} {name : String}
    (hnodup : ((before ++ a :: after).filterMap declared?).Nodup) (ha : a.declared? = some name)
    (d : Declarations) :
    ((before ++ a :: after).foldl addType d).entry name =
      ((before.foldl addType d).addType a).entry name := by
  rw [List.foldl_append, List.foldl_cons, entry_foldl_addType _ (ne_of_nodup hnodup ha).2]

section

variable (h : Reordered specs specs') (hbeside : d'.Beside d)
  (hstart : ∀ name, d'.entry name = d.entry name)
  (hbare : ∀ spec ∈ specs, ∀ name, spec.declared? = some name → spec.isTelling = false → d.Bare name)
include h hbeside hstart hbare

/-- A description says the same in both orders, by induction on what comes before it. -/
theorem entry_described {before after before' after' : List Tree} {a : Tree} {name : String}
    (hspecs : specs = before ++ a :: after) (hspecs' : specs' = before' ++ a :: after')
    (ha : a.declared? = some name) :
    ((before'.foldl addType d').addType a).entry name =
      ((before.foldl addType d).addType a).entry name := by
  have hnodup := h.nodup
  have hnodup' := h.nodup'
  rw [hspecs] at hnodup
  rw [hspecs'] at hnodup'
  have hfold : (before'.foldl addType d').Beside (before.foldl addType d) :=
    ((foldl_addType_beside d' before').trans hbeside).trans (foldl_addType_beside d before).symm
  have hmem : ∀ {c}, c ∈ before → c ∈ specs := fun hc => hspecs ▸ List.mem_append_left _ hc
  have hmem' : ∀ {c}, c ∈ before' → c ∈ specs := fun hc =>
    h.perm.mem_iff.1 (hspecs' ▸ List.mem_append_left _ hc)
  -- a name that is declared in neither beginning is known as before
  have hne : ∀ other, (∀ c ∈ before, c.declared? ≠ some other) →
      (∀ c ∈ before', c.declared? ≠ some other) →
        (before'.foldl addType d').entry other = (before.foldl addType d).entry other := by
    intro other hbefore hbefore'
    rw [entry_foldl_addType _ hbefore, entry_foldl_addType _ hbefore', hstart]
  refine entry_addType_congr hfold (hne name (ne_of_nodup hnodup ha).1 (ne_of_nodup hnodup' ha).1) ?_
  intro other hmention
  by_cases hdeclared : ∃ b ∈ specs, b.declared? = some other
  · obtain ⟨b, hb, hname⟩ := hdeclared
    by_cases htelling : b.isTelling = true
    · have hrelies : a.relies b = true := by simp [relies, htelling, hname, hmention]
      refine sameType_of_entry hfold ?_
      rcases h.before_or hspecs hspecs' ha hname hb hrelies with ⟨hbefore, hbefore'⟩ | ⟨hbefore, hbefore'⟩
      · obtain ⟨first, between, rfl⟩ := List.append_of_mem hbefore
        obtain ⟨first', between', rfl⟩ := List.append_of_mem hbefore'
        have hlt : first.length < (first ++ b :: between).length := by simp
        rw [List.append_assoc] at hspecs hspecs'
        rw [entry_foldl_split (hnodup.sublist ((List.sublist_append_left _ _).filterMap _)) hname,
          entry_foldl_split (hnodup'.sublist ((List.sublist_append_left _ _).filterMap _)) hname]
        exact entry_described hspecs hspecs' hname
      · exact hne other hbefore hbefore'
    · -- a type that counts for its name only is known by its name from the start
      rw [Bool.not_eq_true] at htelling
      have hsilent : ∀ c ∈ specs, c.declared? = some other → c.isTelling = false := by
        intro c hc hcname
        rwa [eq_of_declared h.nodup hb hc hname hcname]
      have hknown := hbare b hb other hname htelling
      have hknown' : d'.Bare other := by rwa [Bare, hstart]
      exact (hknown.foldl_addType fun c hc => hsilent c (hmem hc)).sameType
        (hknown'.foldl_addType fun c hc => hsilent c (hmem' hc)) hfold
  · push Not at hdeclared
    exact sameType_of_entry hfold
      (hne other (fun c hc => hdeclared c (hmem hc)) fun c hc => hdeclared c (hmem' hc))
termination_by before.length

/-- Descriptions in both orders say the same about every name. -/
theorem entry_foldl_addType_eq (name : String) :
    (specs'.foldl addType d').entry name = (specs.foldl addType d).entry name := by
  by_cases hdeclared : ∃ a ∈ specs, a.declared? = some name
  · obtain ⟨a, hmem, ha⟩ := hdeclared
    have hnodup := h.nodup
    have hnodup' := h.nodup'
    obtain ⟨before, after, hspecs⟩ := List.append_of_mem hmem
    obtain ⟨before', after', hspecs'⟩ := List.append_of_mem (h.perm.mem_iff.2 hmem)
    have hdescribed := entry_described h hbeside hstart hbare hspecs hspecs' ha
    rw [hspecs] at hnodup ⊢
    rw [hspecs'] at hnodup' ⊢
    rw [entry_foldl_split hnodup ha, entry_foldl_split hnodup' ha, hdescribed]
  · push Not at hdeclared
    rw [entry_foldl_addType _ hdeclared,
      entry_foldl_addType _ fun c hc => hdeclared c (h.perm.mem_iff.1 hc), hstart]

end

/-! ## All types of a file -/

theorem addTypeName_beside (d : Declarations) (spec : Tree) : (d.addTypeName spec).Beside d := by
  unfold addTypeName
  split <;> exact ⟨rfl, rfl, rfl, rfl⟩

theorem foldl_addTypeName_beside (d : Declarations) (specs : List Tree) :
    (specs.foldl addTypeName d).Beside d := by
  induction specs generalizing d with
  | nil => exact .refl d
  | cons spec specs ih => exact (ih _).trans (addTypeName_beside d spec)

theorem entry_addTypeName (d : Declarations) (spec : Tree) (name : String) :
    (d.addTypeName spec).entry name =
      (if spec.kind = .typeSpec ∧ spec.declared? = some name then some (LocalType.core {})
        else (d.entry name).1, (d.entry name).2) := by
  by_cases hkind : spec.kind = .typeSpec
  · cases hnode : spec.child? .name with
    | none => simp [addTypeName, hkind, hnode, declared?]
    | some node =>
      by_cases hname : name = node.text
      · simp [addTypeName, hkind, hnode, declared?, entry, hname]
      · have hne : node.text ≠ name := fun heq => hname heq.symm
        simp [addTypeName, hkind, hnode, declared?, entry, hname, hne]
  · rw [addTypeName]
    simp [hkind]

/-- Of a name that is made known, nothing else is known. -/
theorem entry_foldl_addTypeName (d : Declarations) (specs : List Tree) (name : String) :
    (specs.foldl addTypeName d).entry name =
      (if ∃ spec ∈ specs, spec.kind = .typeSpec ∧ spec.declared? = some name
        then some (LocalType.core {}) else (d.entry name).1, (d.entry name).2) := by
  induction specs generalizing d with
  | nil => simp
  | cons spec specs ih =>
    rw [List.foldl_cons, ih, entry_addTypeName]
    simp only [List.mem_cons, exists_eq_or_imp]
    by_cases hlater : ∃ spec ∈ specs, spec.kind = .typeSpec ∧ spec.declared? = some name
    · rw [if_pos hlater, if_pos (.inr hlater)]
    · simp only [hlater, or_false, if_false]

theorem kind_of_mem_typeSpecs {top : List Tree} {spec : Tree} (h : spec ∈ typeSpecs top) :
    spec.kind = .typeSpec ∨ spec.kind = .typeAlias := by
  have hkind := (List.mem_filter.1 h).2
  rwa [Bool.or_eq_true, decide_eq_true_eq, decide_eq_true_eq] at hkind

theorem addTypes_beside (d : Declarations) (top : List Tree) : (d.addTypes top).Beside d :=
  (foldl_addType_beside _ _).trans (foldl_addTypeName_beside d _)

section

variable {top top' : List Tree} (h : Reordered (typeSpecs top) (typeSpecs top'))
  (haliases : d.aliases = .empty)
include h haliases

/-- **Types that are described in another order come out the same**, if a description and those on
which it relies keep their order. -/
theorem entry_addTypes (name : String) :
    (d.addTypes top').entry name = (d.addTypes top).entry name := by
  have hbeside : ((typeSpecs top').foldl addTypeName d).Beside ((typeSpecs top).foldl addTypeName d) :=
    (foldl_addTypeName_beside d _).trans (foldl_addTypeName_beside d _).symm
  refine entry_foldl_addType_eq h hbeside (fun name => ?_) (fun spec hspec name hname htelling => ?_) name
  · rw [entry_foldl_addTypeName, entry_foldl_addTypeName]
    simp only [h.perm.mem_iff]
  · -- a type that is known by its name is no alias
    rw [isTelling, Bool.or_eq_false_iff, decide_eq_false_iff_not] at htelling
    have hkind := (kind_of_mem_typeSpecs hspec).resolve_right htelling.1
    refine ⟨LocalType.core {}, ?_, rfl⟩
    rw [entry_foldl_addTypeName, if_pos ⟨spec, hspec, hkind, hname⟩]
    simp [entry, haliases]

theorem isCore_addTypes : (d.addTypes top).core.IsCore (d.addTypes top') := by
  have hentry := fun name => Prod.mk.inj (entry_addTypes h haliases name)
  have hbeside := (addTypes_beside d top).trans (addTypes_beside d top').symm
  refine ⟨hbeside.package, hbeside.imports, ?_, ?_, ?_, ?_⟩
  · intro name
    rw [(hentry name).1]
    exact Bindings.get?_mapValues _ _ name
  · intro name
    rw [(hentry name).2]
    exact Bindings.get?_mapValues _ _ name
  · rw [← hbeside.functions]
    exact (isCore_core _).functions
  · rw [← hbeside.methods]
    exact (isCore_core _).methods

end

end Declarations

end LogStyle.Go
