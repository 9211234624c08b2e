import LogStyle.Proofs.Promotion
import LogStyle.Proofs.Texts

/-!
# Calls are recognized by identity

A call is a logging call because of what its callee was found to be, never because of a name alone.
What a name was found to be depends on the blocks that were open where it stands, and a member that
is selected from a value is followed through embedded fields.

* `Declarations.Promoted`: embedded fields lead from a type to a type of another package, and no type
  of the file on the way has a member of its own with the name.
* `Imported`: a name that no open block binds, and that is bound by an import.
* `Promoted.of_memberWithin?`: a method of another package is selected only where it is promoted.
* `call_recognized`: **a logging call selects a function of a logging package through its import, or
  a method of such a package through a value whose type has it.**
-/

namespace LogStyle

/-- Only two packages log. -/
theorem LoggingApi.package_of_messageIndex? {package name : String} {index : Nat}
    (h : messageIndex? package name = some index) : package = slogPackage ∨ package = zapPackage := by
  unfold messageIndex? functions at h
  by_cases hslog : package = slogPackage
  · exact .inl hslog
  · by_cases hzap : package = zapPackage
    · exact .inr hzap
    · rw [if_neg hslog, if_neg hzap] at h
      cases h

/-- The name through which a call selects what it calls. -/
def Expr.through? : Expr → Option (NodeId × String)
  | call _ _ (select _ _ (ident id _ name) _) _ => some (id, name)
  | _ => none

theorem Expr.through?_eq_some {e : Expr} {id : NodeId} {name : String} :
    e.through? = some (id, name) ↔ ∃ callId span selectId selectSpan nameSpan field args,
      e = call callId span (select selectId selectSpan (ident id nameSpan name) field) args := by
  unfold through?
  constructor
  · intro h
    split at h
    · cases h
      exact ⟨_, _, _, _, _, _, _, rfl⟩
    · cases h
  · rintro ⟨callId, span, selectId, selectSpan, nameSpan, field, args, rfl⟩
    rfl

namespace Go

namespace Declarations

theorem package_foldl {f : Declarations → Tree → Declarations} (h : ∀ d t, (f d t).package = d.package)
    (ts : List Tree) (d : Declarations) : (ts.foldl f d).package = d.package := by
  induction ts generalizing d with
  | nil => rfl
  | cons t ts ih => rw [List.foldl_cons, ih, h]

theorem package_ofTrees (top : List Tree) : (ofTrees top).package = packageName top := by
  have hname : ∀ d t, (addTypeName d t).package = d.package := by
    intro d t
    unfold addTypeName
    split <;> rfl
  have htype : ∀ d t, (addType d t).package = d.package := by
    intro d t
    unfold addType
    split
    · split <;> rfl
    · rfl
  have hsignature : ∀ d t, (addSignature d t).package = d.package := by
    intro d t
    unfold addSignature
    split
    · rfl
    · dsimp only
      split
      · rfl
      · split <;> rfl
      · rfl
  rw [ofTrees, package_foldl hsignature, addTypes, package_foldl htype, package_foldl hname]

/-- Following at most a number of embedded fields leads from a type, pointers aside, to a type of
another package. The types on the way are types of the file, and none of them has a field or a
declared method with the name. -/
inductive Promoted (d : Declarations) (name : String) : Nat → StaticType → String → Prop where
  | leads {limit : Nat} {type : StaticType} {package typeName : String} {underlying : StaticType} :
      target type = .named package typeName underlying → package ≠ d.package →
        Promoted d name limit type package
  | through {limit : Nat} {type : StaticType} {typeName : String} {underlying : StaticType}
      {layout : LocalType} {embedded : StaticType} {package : String} :
      target type = .named d.package typeName underlying → d.types.get? typeName = some layout →
        layout.fields.get? name = none → d.methods.contains (typeName, name) = false →
        embedded ∈ layout.embedded → Promoted d name limit embedded package →
        Promoted d name (limit + 1) type package

variable {d : Declarations} {name package : String} {limit : Nat} {type : StaticType}

/-- **A method of another package is selected only where it is promoted.** -/
theorem Promoted.of_memberWithin? {f : FunctionId}
    (h : d.memberWithin? name limit type = some (.method f)) (hf : f.package ≠ some d.package) :
    f.name = name ∧ ∃ package, f.package = some package ∧ Promoted d name limit type package := by
  -- a type that answers by itself is not of the file, as its own method would be one of this package
  have hself : ∀ {limit type}, d.memberWithin? name 0 type = some (.method f) →
      f.name = name ∧ ∃ package, f.package = some package ∧ Promoted d name limit type package := by
    intro limit type h
    obtain ⟨package, typeName, underlying, htarget, rfl⟩ := eq_method_of_memberWithin?_zero h
    refine ⟨rfl, package, rfl, .leads htarget ?_⟩
    rintro rfl
    exact hf rfl
  induction limit generalizing type with
  | zero => exact hself h
  | succ limit ih =>
    rw [memberWithin?_succ] at h
    split at h
    · exact hself h
    · rename_i hhas
      split at h
      · exact hself h
      · rename_i embedded hlead
        obtain ⟨hname, package, hpackage, hpromoted⟩ := ih h
        obtain ⟨typeName, underlying, layout, htarget, hlayout, hmem⟩ :=
          mem_embeddedTypes.1 (lead?_mem hlead)
        rw [has_of_target htarget, hlayout, Bool.or_eq_true, not_or] at hhas
        refine ⟨hname, package, hpackage, .through htarget hlayout ?_ ?_ hmem hpromoted⟩
        · simpa using hhas.1
        · simpa using hhas.2

/-- A declared method of a type of the file is not taken for one of another package. -/
theorem Promoted.not_declared {typeName : String} {underlying : StaticType}
    (h : Promoted d name limit type package)
    (htarget : target type = .named d.package typeName underlying) :
    d.methods.contains (typeName, name) = false := by
  cases h with
  | leads htarget' hne =>
    rw [htarget] at htarget'
    obtain ⟨rfl, -, -⟩ := StaticType.named.inj htarget'
    exact absurd rfl hne
  | through htarget' _ _ hmethods _ _ =>
    rw [htarget] at htarget'
    obtain ⟨-, rfl, -⟩ := StaticType.named.inj htarget'
    exact hmethods

end Declarations

open Declarations (Promoted)

/-- A name that stands for an imported package: where it stands no open block binds it, and an import
does. -/
def Imported (file : Tree) (e : Expr) (package : String) : Prop :=
  ∃ t s, Reached file .expression t s ∧ ((t.meaning file.declarations).lower.run s).1 = e ∧
    t.kind = .identifier ∧ s.scopes.lookup t.text = none ∧
    file.declarations.imports.get? t.text = some package

/-- A value whose type has the methods of a package, as far as a name goes. -/
def Carries (file : Tree) (e : Expr) (name package : String) : Prop :=
  ∃ type, (lowerFile file).2.resolver.typeOf e.id = some type ∧
    Promoted file.declarations name Declarations.embeddingLimit type package

/-- What is known of the callee of a logging call: a name that is selected from an expression. -/
structure Recognized (file : Tree) (operand : Expr) (name package : String) : Prop where
  logs : package = LoggingApi.slogPackage ∨ package = LoggingApi.zapPackage
  identity : Imported file operand package ∨ Carries file operand name package
  /-- It is no method that the file declares for the type of the expression. -/
  undeclared : ∀ type typeName underlying,
    (lowerFile file).2.resolver.typeOf operand.id = some type →
    target type = .named file.declarations.package typeName underlying →
    file.declarations.methods.contains (typeName, name) = false
  /-- If the expression is a name that an open block binds, it is a value. -/
  bound : ∀ t s, Reached file .expression t s →
    ((t.meaning file.declarations).lower.run s).1 = operand → t.kind = .identifier →
    s.scopes.lookup t.text ≠ none → Carries file operand name package

section

variable {file t : Tree} {d : Declarations} {scopes : Scopes} {s : State} {name package : String}
  {operand : Expr}

/-- What may be recorded about a name. -/
theorem Meaning.nameNote_cases (d : Declarations) (scopes : Scopes) (name : String) :
    (∃ type, nameNote d scopes name = { use := some (.value type), type := some type }) ∨
    nameNote d scopes name = {} ∨
    (∃ path, scopes.lookup name = none ∧ d.imports.get? name = some path ∧
      nameNote d scopes name = { use := some (.package path) }) ∨
    nameNote d scopes name = { use := some (.function (.function d.package name)) } := by
  unfold nameNote
  rcases scopes.lookup name with _ | _ | type
  · rcases d.imports.get? name with _ | path
    · by_cases hfunction : d.functions.contains name = true
      · exact .inr (.inr (.inr (if_pos hfunction)))
      · exact .inr (.inl (if_neg hfunction))
    · exact .inr (.inr (.inl ⟨path, rfl, rfl, rfl⟩))
  · exact .inr (.inl rfl)
  · exact .inl ⟨type, rfl⟩

/-- A name refers to a package only if nothing in sight hides the import. -/
theorem Meaning.nameNote_package (h : (nameNote d scopes name).use = some (.package package)) :
    scopes.lookup name = none ∧ d.imports.get? name = some package ∧
      (nameNote d scopes name).type = none := by
  rcases nameNote_cases d scopes name with ⟨type, hnote⟩ | hnote | ⟨path, hlookup, himport, hnote⟩ | hnote
  all_goals rw [hnote] at h
  case inr.inr.inl =>
    cases h
    exact ⟨hlookup, himport, by rw [hnote]⟩
  all_goals cases h

/-- A name that refers to a function is the name of a function of the file. -/
theorem Meaning.nameNote_function {f : FunctionId}
    (h : (nameNote d scopes name).use = some (.function f)) : f = .function d.package name := by
  rcases nameNote_cases d scopes name with ⟨type, hnote⟩ | hnote | ⟨path, -, -, hnote⟩ | hnote
  all_goals rw [hnote] at h
  case inr.inr.inr =>
    cases h
    rfl
  all_goals cases h

theorem Tree.lower_identifier (h : t.kind = .identifier) :
    ((t.meaning d).lower.run s).1 = .ident s.next t.span t.text := by
  rw [run_lower]
  simp only [plan, h]
  rfl

theorem Meaning.of_packageOf? {table : TypeTable} (h : packageOf? table operand = some package) :
    ∃ id span name, operand = .ident id span name ∧ table.uses.get? id = some (.package package) := by
  cases operand with
  | ident id span name =>
    simp only [packageOf?] at h
    split at h
    · rename_i path huse
      obtain rfl := Option.some.inj h
      exact ⟨id, span, name, rfl, huse⟩
    · cases h
  | _ => cases h

/-- An expression that refers to a package is a name of its import, and has no type. -/
theorem imported_of_packageOf? (hnode : operand ∈ Expr.nodesOfAll (lowerFile file).1)
    (h : Meaning.packageOf? file.visited.2.table operand = some package) :
    Imported file operand package ∧ (file.visited.2.note operand.id).type = none := by
  obtain ⟨id, span, name, rfl, huse⟩ := Meaning.of_packageOf? h
  obtain ⟨t, s, hreached, hlower⟩ := exists_reached hnode
  have hnoted := hreached.noted
  rw [hlower] at hnoted
  simp only [Noted] at hnoted
  have huse' : (Meaning.nameNote file.declarations s.scopes name).use = some (.package package) := by
    rw [← hnoted]
    exact huse
  obtain ⟨hlookup, himport, htype⟩ := Meaning.nameNote_package huse'
  obtain ⟨hkind, rfl, -⟩ := Tree.of_lower_ident hlower
  refine ⟨⟨t, s, hreached, hlower, hkind, hlookup, himport⟩, ?_⟩
  rw [Expr.id, hnoted, htype]

/-- A name that an open block binds refers to no package. -/
theorem packageOf?_of_bound (hreached : Reached file .expression t s)
    (hlower : ((t.meaning file.declarations).lower.run s).1 = operand) (hkind : t.kind = .identifier)
    (hbound : s.scopes.lookup t.text ≠ none) :
    Meaning.packageOf? file.visited.2.table operand = none := by
  cases hpackage : Meaning.packageOf? file.visited.2.table operand with
  | none => rfl
  | some package =>
    have hnoted := hreached.noted
    rw [Tree.lower_identifier hkind] at hlower hnoted
    subst hlower
    obtain ⟨id, span, name, heq, huse⟩ := Meaning.of_packageOf? hpackage
    obtain ⟨rfl, -, -⟩ := Expr.ident.inj heq
    simp only [Noted] at hnoted
    have huse' : (Meaning.nameNote file.declarations s.scopes t.text).use =
        some (.package package) := by
      rw [← hnoted]
      exact huse
    obtain ⟨hlookup, -, -⟩ := Meaning.nameNote_package huse'
    exact absurd hlookup hbound

/-- What a selected name was found to be: a function of a package, or a method of a value. -/
theorem of_calledFunction?_select {id : NodeId} {span : Span} {field : FieldName} {f : FunctionId}
    (hnode : .select id span operand field ∈ Expr.nodesOfAll (lowerFile file).1)
    (h : LoggingApi.calledFunction? (lowerFile file).2.resolver (.select id span operand field) =
      some f) :
    (∃ package, Meaning.packageOf? file.visited.2.table operand = some package ∧
      f = .function package field.name) ∨
    ∃ type, (file.visited.2.note operand.id).type = some type ∧
      file.declarations.member? type field.name = some (.method f) := by
  obtain ⟨scopes, hnoted⟩ := exists_noted hnode
  simp only [Noted] at hnoted
  obtain ⟨hselected, huse⟩ := hnoted
  have hselection : (lowerFile file).2.resolver.selection id = _ := congrArg Note.selection hselected
  have huseOf : (lowerFile file).2.resolver.useOf field.id = _ := congrArg Note.use huse
  simp only [LoggingApi.calledFunction?, hselection, huseOf, Meaning.selectedUse?,
    Meaning.selected?] at h
  cases hpackage : Meaning.packageOf? file.visited.2.table operand with
  | some package =>
    rw [hpackage] at h
    obtain rfl := Option.some.inj h
    exact .inl ⟨package, rfl, rfl⟩
  | none =>
    simp only [hpackage] at h
    refine .inr ?_
    cases htype : (file.visited.2.note operand.id).type with
    | none =>
      rw [htype] at h
      cases h
    | some type =>
      rw [htype] at h
      refine ⟨type, rfl, ?_⟩
      simp only [Option.bind_some] at h
      rcases hmember : file.declarations.member? type field.name with _ | fieldType | g
      all_goals rw [hmember] at h
      · cases h
      · cases h
      · obtain rfl := Option.some.inj h
        rfl

end

/-- **Calls are recognized by identity.** If a package has an ordinary name, a call of its file is a
logging call only if it selects a function of a logging package through the import of the package, or
a method of such a package through a value whose type has the method. -/
theorem call_recognized {file : Tree}
    (hpackage : '/' ∉ (Declarations.packageName file.parts).toList) {path : String} {call : Expr}
    (hcall : call ∈ SourceUnit.calls ⟨path, (lowerFile file).1⟩) {argument : LoggingApi.MessageArgument}
    (h : LoggingApi.resolve? (lowerFile file).2.resolver call = some argument) :
    ∃ id span selectId selectSpan operand field args package,
      call = .call id span (.select selectId selectSpan operand field) args ∧
      LoggingApi.messageIndex? package field.name = some argument.index ∧
      args[argument.index]? = some argument.expr ∧ Recognized file operand field.name package := by
  obtain ⟨id, span, callee, args, f, package, rfl, hf, hfpackage, hindex, hargument⟩ :=
    LoggingApi.of_resolve? h
  have hlogs := LoggingApi.package_of_messageIndex? hindex
  -- the package of the file is none of those that log
  have hforeign : package ≠ file.declarations.package := by
    rintro rfl
    rw [← Declarations.package_ofTrees] at hpackage
    change '/' ∉ file.declarations.package.toList at hpackage
    rcases hlogs with hlogs | hlogs <;> exact hpackage (by rw [hlogs]; decide)
  have hcallee : callee ∈ Expr.nodesOfAll (lowerFile file).1 :=
    Expr.part_mem_nodesOfAll (List.mem_of_mem_filter hcall) List.mem_cons_self
  cases callee with
  | ident nameId nameSpan name =>
    -- a name that is called is a function of the file
    obtain ⟨scopes, hnoted⟩ := exists_noted hcallee
    simp only [Noted] at hnoted
    have huse : (Meaning.nameNote file.declarations scopes name).use = some (.function f) := by
      rw [← hnoted]
      simp only [LoggingApi.calledFunction?] at hf
      split at hf
      · rename_i g hg
        obtain rfl := Option.some.inj hf
        exact hg
      · cases hf
    rw [Meaning.nameNote_function huse] at hfpackage
    exact absurd (Option.some.inj hfpackage).symm hforeign
  | select selectId selectSpan operand field =>
    have hoperand : operand ∈ Expr.nodesOfAll (lowerFile file).1 :=
      Expr.part_mem_nodesOfAll hcallee List.mem_cons_self
    have hfound := of_calledFunction?_select hcallee hf
    -- a method that is selected through a value is promoted
    have hpromoted : ∀ type, file.declarations.member? type field.name = some (.method f) →
        f.name = field.name ∧ Promoted file.declarations field.name Declarations.embeddingLimit type
          package := by
      intro type hmember
      obtain ⟨hname, package', hpackage', hpromoted⟩ := Promoted.of_memberWithin? hmember (by
        rw [hfpackage]
        exact fun heq => hforeign (Option.some.inj heq))
      obtain rfl := Option.some.inj (hfpackage.symm.trans hpackage')
      exact ⟨hname, hpromoted⟩
    have hname : f.name = field.name := by
      rcases hfound with ⟨package', -, rfl⟩ | ⟨type, -, hmember⟩
      · rfl
      · exact (hpromoted type hmember).1
    rw [hname] at hindex
    refine ⟨id, span, selectId, selectSpan, operand, field, args, package, rfl, hindex, hargument,
      hlogs, ?_, ?_, ?_⟩
    · rcases hfound with ⟨package', hpackageOf, rfl⟩ | ⟨type, htype, hmember⟩
      · obtain rfl := Option.some.inj hfpackage
        exact .inl (imported_of_packageOf? hoperand hpackageOf).1
      · exact .inr ⟨type, htype, (hpromoted type hmember).2⟩
    · intro type typeName underlying htype htarget
      rcases hfound with ⟨package', hpackageOf, -⟩ | ⟨type', htype', hmember⟩
      · have hnone := (imported_of_packageOf? hoperand hpackageOf).2
        exact absurd (htype.symm.trans hnone) (by simp)
      · obtain rfl := Option.some.inj (htype.symm.trans htype')
        exact (hpromoted type hmember).2.not_declared htarget
    · intro t s hreached hlower hkind hbound
      have hnone := packageOf?_of_bound hreached hlower hkind hbound
      rcases hfound with ⟨package', hpackageOf, -⟩ | ⟨type, htype, hmember⟩
      · exact absurd (hpackageOf.symm.trans hnone) (by simp)
      · exact ⟨type, htype, (hpromoted type hmember).2⟩
  | literal | call | binary | paren | other => cases hf

/-- A function that logs through an import. -/
def importedLogger : String :=
  "package p\nimport \"log/slog\"\nfunc f() \x7b slog.Info(\"a\") \x7d"

/-- A call through an import. -/
theorem call_recognized_import : ∃ file, Tree.ofSource? importedLogger = some file ∧
    ∃ call ∈ SourceUnit.calls ⟨"p.go", (lowerFile file).1⟩, ∃ argument,
      LoggingApi.resolve? (lowerFile file).2.resolver call = some argument ∧
      ∃ id span selectId selectSpan operand field args package,
        call = .call id span (.select selectId selectSpan operand field) args ∧
        LoggingApi.messageIndex? package field.name = some argument.index ∧
        args[argument.index]? = some argument.expr ∧ Recognized file operand field.name package := by
  have hfile : (Tree.ofSource? importedLogger).any (fun file =>
        decide ('/' ∉ (Declarations.packageName file.parts).toList) &&
        (SourceUnit.calls ⟨"p.go", (lowerFile file).1⟩).any fun call =>
          (LoggingApi.resolve? (lowerFile file).2.resolver call).isSome) = true := by
    rw [Tree.ofSource?_eq]
    decide +kernel
  obtain ⟨file, hfile, hboth⟩ := (Option.any_eq_true _ _).1 hfile
  obtain ⟨hpackage, hcalls⟩ := Bool.and_eq_true_iff.1 hboth
  obtain ⟨call, hcall, hresolve⟩ := List.any_eq_true.1 hcalls
  obtain ⟨argument, hargument⟩ := Option.isSome_iff_exists.1 hresolve
  exact ⟨file, hfile, call, hcall, argument, hargument,
    call_recognized (of_decide_eq_true hpackage) hcall hargument⟩

/-- A local variable that is a logger and is named like the import. -/
def loggerVariable : String :=
  "package main\n\nimport \"log/slog\"\n\nfunc main() \x7b\n\tvar slog *slog.Logger\n" ++
    "\tslog.Info(\"Hello\")\n\x7d\n"

/-- A local variable that is named like an import may be a logger, and then calls through it are
logging calls and are reported. -/
theorem reported_through_variable : ∃ file, Tree.ofSource? loggerVariable = some file ∧
    file.declarations.imports.get? "slog" = some LoggingApi.slogPackage ∧
    (∃ call ∈ SourceUnit.calls ⟨"main.go", (lowerFile file).1⟩,
      ∃ id span selectId selectSpan name nameSpan field args,
      call = .call id span (.select selectId selectSpan (.ident name nameSpan "slog") field) args ∧
      (lowerFile file).2.resolver.useOf name = some (.value Known.slogLogger) ∧
      (LoggingApi.resolve? (lowerFile file).2.resolver call).isSome = true) ∧
    (Engine.check ⟨[⟨Rule.lowercaseStart, .warning⟩]⟩ ⟨"main.go", (lowerFile file).1⟩
      (lowerFile file).2.resolver).isEmpty = false := by
  have hfile : (Tree.ofSource? loggerVariable).any
      (fun file => decide (file.declarations.imports.get? "slog" = some LoggingApi.slogPackage) &&
        ((SourceUnit.calls ⟨"main.go", (lowerFile file).1⟩).any fun call =>
          (LoggingApi.resolve? (lowerFile file).2.resolver call).isSome &&
            call.through?.any fun through => decide (through.2 = "slog") &&
              (lowerFile file).2.resolver.useOf through.1 = some (.value Known.slogLogger)) &&
        !(Engine.check ⟨[⟨Rule.lowercaseStart, .warning⟩]⟩ ⟨"main.go", (lowerFile file).1⟩
          (lowerFile file).2.resolver).isEmpty) = true := by
    rw [Tree.ofSource?_eq]
    decide +kernel
  obtain ⟨file, hfile, hall⟩ := (Option.any_eq_true _ _).1 hfile
  simp only [Bool.and_eq_true, decide_eq_true_eq, Bool.not_eq_true'] at hall
  obtain ⟨⟨himport, hcalls⟩, hreported⟩ := hall
  refine ⟨file, hfile, himport, ?_, hreported⟩
  obtain ⟨call, hcall, hboth⟩ := List.any_eq_true.1 hcalls
  obtain ⟨hresolve, hthrough⟩ := Bool.and_eq_true_iff.1 hboth
  obtain ⟨⟨id, name⟩, hthrough, hboth⟩ := (Option.any_eq_true _ _).1 hthrough
  obtain ⟨hname, huse⟩ := Bool.and_eq_true_iff.1 hboth
  obtain rfl : name = "slog" := of_decide_eq_true hname
  obtain ⟨callId, span, selectId, selectSpan, nameSpan, field, args, rfl⟩ :=
    Expr.through?_eq_some.1 hthrough
  exact ⟨_, hcall, callId, span, selectId, selectSpan, id, nameSpan, field, args, rfl,
    of_decide_eq_true huse, hresolve⟩

end Go

end LogStyle
