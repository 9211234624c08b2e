import LogStyle.Proofs.Coverage
import LogStyle.Proofs.Following
import LogStyle.Proofs.Forward

/-!
# The order of type declarations

Types may be declared before or after they are mentioned. In which order they are declared plays no
part for what is reported, except for aliases and for types that stand for a named type: what mentions
one of these has to stay on the same side of it.

* `Tree.Resorted`: files that differ in the order of their type declarations and in places.
* `Tree.visited_resorted`: such files leave the same expressions behind, and the same is known about
  them as far as it is used.
* `checked_resorted`: **in such files the same violations are found, up to their places.**
* `checked_swapped_aliases`: an alias that is declared before the alias that it mentions is another
  type.
-/

namespace LogStyle

variable {ρ : Type} [MessageRule ρ]

/-! ## Violations without places -/

def Location.unplaced (l : Location) : Location := ⟨l.file, 0, 0, 0, 0⟩

/-- A violation up to its place. -/
def Violation.unplaced (v : Violation) : Violation :=
  { v with
    location := v.location.unplaced
    suggestion := v.suggestion.map fun s =>
      { s with replacement := s.replacement.map fun r => { r with location := r.location.unplaced } } }

theorem Message.fragments_masked (e : Expr) :
    Message.fragments (e.masked .placement) = Message.fragments e := by
  induction e using Message.fragments.induct with
  | case1 id span raw => rfl
  | case2 id span left right hleft hright => simp [Expr.masked, Message.fragments, hleft, hright]
  | case3 id span inner ih => simp [Expr.masked, Message.fragments, ih]
  | case4 e hliteral hadd hparen =>
    cases e with
    | literal => rfl
    | binary id span op left right =>
      cases op with
      | add => exact absurd rfl (hadd id span left right)
      | other => rfl
    | paren id span inner => exact absurd rfl (hparen id span inner)
    | _ => rfl

theorem Message.isReplaceable_masked (m : Mask) (e : Expr) :
    Message.isReplaceable (e.masked m) = Message.isReplaceable e := by
  rw [isReplaceable, isReplaceable, Expr.isLiteral, Expr.stripParens_masked, Expr.isLiteral]
  cases e.stripParens <;> rfl

namespace Engine

theorem unplaced_ofFinding (path : String) (m : Mask) (message : Expr) (rule : ρ)
    (severity : Severity) (finding : Finding) (replaceable : Bool) :
    (Violation.ofFinding path (message.masked m) rule severity finding replaceable).unplaced =
      (Violation.ofFinding path message rule severity finding replaceable).unplaced := by
  cases replaceable with
  | false => rfl
  | true =>
    simp only [Violation.ofFinding, Violation.unplaced]
    cases finding.proposal? <;> rfl

/-- What is found in a message, up to places, does not depend on its place. -/
theorem checkMessage_masked (engine : Engine ρ) (path : String) (message : Expr) :
    (engine.checkMessage path (message.masked .placement)).map Violation.unplaced =
      (engine.checkMessage path message).map Violation.unplaced := by
  unfold checkMessage
  rw [Message.fragments_masked, List.map_flatMap, List.map_flatMap]
  refine List.flatMap_congr fun fragment _ => ?_
  simp only [checkFragment, Message.isReplaceable_masked, List.map_filterMap]
  refine List.filterMap_congr fun configured _ => ?_
  split
  · cases MessageRule.check? configured.rule fragment.1 fragment.2 with
    | none => rfl
    | some finding => exact congrArg some (unplaced_ofFinding path .placement message _ _ finding _)
  · rfl

theorem checkCall_masked (engine : Engine ρ) (path : String) (types : Resolver) (call : Expr) :
    (engine.checkCall path types (call.masked .placement)).map Violation.unplaced =
      (engine.checkCall path types call).map Violation.unplaced := by
  unfold checkCall
  rw [LoggingApi.resolve?_masked]
  cases LoggingApi.resolve? types call with
  | none => rfl
  | some argument => exact checkMessage_masked engine path argument.expr

theorem checkCall_core (engine : Engine ρ) (path : String) (table : TypeTable) (call : Expr) :
    engine.checkCall path table.core.resolver call = engine.checkCall path table.resolver call := by
  unfold checkCall
  rw [LoggingApi.resolve?_core]

/-- What is found in expressions, up to places, depends on the expressions without their places. -/
theorem check_masked (engine : Engine ρ) (path : String) (types : Resolver) (es : List Expr) :
    (engine.check ⟨path, es⟩ types).map Violation.unplaced =
      (Expr.callsOfAll (es.map (Expr.masked .placement))).flatMap fun call =>
        (engine.checkCall path types call).map Violation.unplaced := by
  rw [Expr.callsOfAll_masked, List.flatMap_map]
  simp only [checkCall_masked]
  exact List.map_flatMap

end Engine

namespace Go

open Lower

namespace Tree

def isTypeDeclaration (t : Tree) : Bool := t.kind = .typeDeclaration

/-- The nodes at the top level of a file that declare no types. -/
def others (file : Tree) : List Tree := file.parts.filter (!·.isTypeDeclaration)

/-- Files that differ in the order of their type declarations and in places only. No type is declared
twice, and a description and those on which it relies keep their order. -/
structure Resorted (file file' : Tree) : Prop where
  others : (file'.fileMasked .placement).others = (file.fileMasked .placement).others
  types : Reordered (Declarations.typeSpecs (file.fileMasked .placement).parts)
    (Declarations.typeSpecs (file'.fileMasked .placement).parts)

instance (file file' : Tree) : Decidable (Resorted file file') :=
  decidable_of_iff (_ ∧ _) ⟨fun h => ⟨h.1, h.2⟩, fun h => ⟨h.others, h.types⟩⟩

variable {file file' : Tree}

/-! ## Declarations -/

theorem filter_others (file : Tree) {kind : Kind} (h : kind ≠ .typeDeclaration) :
    file.parts.filter (·.kind = kind) = file.others.filter (·.kind = kind) := by
  rw [others, List.filter_filter]
  refine List.filter_congr fun t _ => ?_
  by_cases hkind : t.kind = kind <;> simp [isTypeDeclaration, hkind, h]

theorem addSignature_typeDeclaration (d : Declarations) {t : Tree} (h : t.isTypeDeclaration = true) :
    d.addSignature t = d := by
  have hkind : t.kind = .typeDeclaration := of_decide_eq_true h
  unfold Declarations.addSignature
  rw [hkind]
  cases t.child? .name <;> rfl

theorem foldl_addSignature_others (file : Tree) (d : Declarations) :
    file.parts.foldl Declarations.addSignature d = file.others.foldl Declarations.addSignature d := by
  have hskip : Declarations.addSignature =
      fun d t => if !t.isTypeDeclaration then d.addSignature t else d := by
    funext d t
    split
    · rfl
    · rename_i htype
      exact addSignature_typeDeclaration d (by simpa using htype)
  rw [others, List.foldl_filter, ← hskip]

/-- The package and the imports of a file have nothing to do with its types. -/
theorem headings_of_others (h : file'.others = file.others) :
    Declarations.packageName file'.parts = Declarations.packageName file.parts ∧
      ImportTable.ofTrees file'.parts = ImportTable.ofTrees file.parts := by
  have hfilter : ∀ kind, kind ≠ .typeDeclaration →
      file'.parts.filter (·.kind = kind) = file.parts.filter (·.kind = kind) := by
    intro kind hkind
    rw [filter_others file' hkind, h, filter_others file hkind]
  constructor
  · rw [Declarations.packageName, hfilter _ (by decide), Declarations.packageName]
  · rw [ImportTable.ofTrees, hfilter _ (by decide), ImportTable.ofTrees]

/-- The same is declared, as far as it is used. -/
theorem exists_isCore (hothers : file'.others = file.others)
    (htypes : Reordered (Declarations.typeSpecs file.parts) (Declarations.typeSpecs file'.parts)) :
    ∃ c : Declarations, c.IsCore file.declarations ∧ c.IsCore file'.declarations := by
  obtain ⟨hpackage, himports⟩ := headings_of_others hothers
  let start : Declarations :=
    { package := Declarations.packageName file.parts, imports := .ofTrees file.parts }
  have hcore := Declarations.isCore_addTypes (d := start) htypes rfl
  refine ⟨file.others.foldl Declarations.addSignature (start.addTypes file.parts).core, ?_, ?_⟩
  · rw [declarations, Declarations.ofTrees, foldl_addSignature_others]
    exact (Declarations.isCore_core _).foldl_addSignature _
  · rw [declarations, Declarations.ofTrees, foldl_addSignature_others, hothers, hpackage, himports]
    exact hcore.foldl_addSignature _

/-! ## What is left behind -/

theorem runAll_others (d : Declarations) (ts : List Tree) :
    Task.runAll d (Task.takeAll .statement ts) =
      Task.runAll d (Task.takeAll .statement (ts.filter (!·.isTypeDeclaration))) := by
  induction ts with
  | nil => rfl
  | cons t ts ih =>
    rw [Task.runAll_takeAll_cons, ih]
    by_cases htype : t.isTypeDeclaration = true
    · have hkind : t.kind = .typeDeclaration := of_decide_eq_true htype
      rw [does_of_work (by rw [work, hkind]), List.filter_cons_of_neg (by simp [htype])]
      simp
    · rw [List.filter_cons_of_pos (by simpa using htype), Task.runAll_takeAll_cons]

theorem others_ordered (file : Tree) : file.ordered.filter (!·.isTypeDeclaration) =
    file.others.filter isVariableDeclaration ++ file.others.filter (!isVariableDeclaration ·) := by
  rw [ordered, others, List.filter_append, List.filter_filter, List.filter_filter, List.filter_filter,
    List.filter_filter]
  simp only [Bool.and_comm]

/-- **Files that differ in the order of their type declarations leave the same expressions behind**,
and the same is known about them as far as it is used. -/
theorem visited_resorted (h : Resorted file file') :
    file'.visited.1.map (Expr.masked .placement) = file.visited.1.map (Expr.masked .placement) ∧
      file'.visited.2.core = file.visited.2.core := by
  obtain ⟨hes, hstate⟩ := alike_visited .placement file
  obtain ⟨hes', hstate'⟩ := alike_visited .placement file'
  obtain ⟨c, hc, hc'⟩ := exists_isCore h.others h.types
  have hrun := follows_takeAll hc (file.fileMasked .placement).ordered {}
  have hrun' := follows_takeAll hc' (file'.fileMasked .placement).ordered {}
  rw [← visited_eq] at hrun hrun'
  rw [runAll_others, others_ordered] at hrun hrun'
  rw [h.others, hrun] at hrun'
  obtain ⟨hsame, hcore⟩ := Prod.mk.inj hrun'
  rw [← hes, ← hes', ← hstate, ← hstate', hsame, hcore]
  exact ⟨rfl, rfl⟩

end Tree

/-! ## What is reported -/

/-- **In files that differ in the order of their type declarations the same violations are found**, up
to their places. -/
theorem checked_resorted {file file' : Tree} (h : Tree.Resorted file file') (engine : Engine ρ)
    (path : String) :
    ((engine.check ⟨path, (lowerFile file').1⟩ (lowerFile file').2.resolver).map
        Violation.unplaced).Perm
      ((engine.check ⟨path, (lowerFile file).1⟩ (lowerFile file).2.resolver).map
        Violation.unplaced) := by
  obtain ⟨hes, hstate⟩ := Tree.visited_resorted h
  have hcore : (lowerFile file').2.core = (lowerFile file).2.core := congrArg State.table hstate
  have hsame : ∀ call, engine.checkCall path (lowerFile file').2.resolver call =
      engine.checkCall path (lowerFile file).2.resolver call := by
    intro call
    rw [← Engine.checkCall_core, hcore, Engine.checkCall_core]
  rw [Engine.check_masked, Engine.check_masked]
  simp only [hsame]
  exact (perm_callsOfAll (Tree.perm_lowerFile_masked hes)).flatMap_right _

/-- Structs that mention each other, and an alias before the struct that mentions it. -/
def structsFirst : String :=
  "package p\nimport \"log/slog\"\ntype A struct \x7b b *B \x7d\n" ++
    "type L = *slog.Logger\ntype B struct \x7b l L; a A \x7d\n" ++
    "func f(a A) \x7b a.b.l.Info(\"Hello\") \x7d"

/-- The same types in another order, behind the function and in one declaration. -/
def structsLast : String :=
  "package p\nimport \"log/slog\"\nfunc f(a A) \x7b a.b.l.Info(\"Hello\") \x7d\n" ++
    "type (\n\tL = *slog.Logger\n\tB struct \x7b l L; a A \x7d\n" ++
    "\tA struct \x7b b *B \x7d\n)"

/-- Structs that mention each other, and an alias before the struct that mentions it, in two orders. -/
theorem checked_resorted_structs : ∃ file file' : Tree,
    Tree.ofSource? structsFirst = some file ∧
    Tree.ofSource? structsLast = some file' ∧
    Tree.Resorted file file' ∧
    (Engine.check ⟨[⟨Rule.lowercaseStart, .warning⟩]⟩ ⟨"p.go", (lowerFile file).1⟩
      (lowerFile file).2.resolver).length = 1 ∧
    ((Engine.check ⟨[⟨Rule.lowercaseStart, .warning⟩]⟩ ⟨"p.go", (lowerFile file').1⟩
        (lowerFile file').2.resolver).map Violation.unplaced).Perm
      ((Engine.check ⟨[⟨Rule.lowercaseStart, .warning⟩]⟩ ⟨"p.go", (lowerFile file).1⟩
        (lowerFile file).2.resolver).map Violation.unplaced) := by
  have hfiles : ∃ file ∈ Tree.ofSource? structsFirst,
      ∃ file' ∈ Tree.ofSource? structsLast,
      Tree.Resorted file file' ∧
      (Engine.check ⟨[⟨Rule.lowercaseStart, .warning⟩]⟩ ⟨"p.go", (lowerFile file).1⟩
        (lowerFile file).2.resolver).length = 1 := by
    simp only [Tree.ofSource?_eq]
    decide +kernel
  obtain ⟨file, hfile, file', hfile', hresorted, hlength⟩ := hfiles
  exact ⟨file, file', hfile, hfile', hresorted, hlength, checked_resorted hresorted _ "p.go"⟩

/-- An alias of an alias that is declared before it. -/
def aliasFirst : String :=
  "package main\n\nimport \"log/slog\"\n\ntype Log = *slog.Logger\ntype Wrapper = Log\n\n" ++
    "func f(w Wrapper) \x7b w.Info(\"Hello\") \x7d\n"

/-- An alias of an alias that is declared behind it. -/
def aliasLast : String :=
  "package main\n\nimport \"log/slog\"\n\ntype Wrapper = Log\ntype Log = *slog.Logger\n\n" ++
    "func f(w Wrapper) \x7b w.Info(\"Hello\") \x7d\n"

/-- An alias that is declared before the alias that it mentions is not known to be a logger. -/
theorem checked_swapped_aliases : ∃ file file' : Tree,
    Tree.ofSource? aliasFirst = some file ∧
    Tree.ofSource? aliasLast = some file' ∧
    (file'.fileMasked .placement).others = (file.fileMasked .placement).others ∧
    (Declarations.typeSpecs (file'.fileMasked .placement).parts).Perm
      (Declarations.typeSpecs (file.fileMasked .placement).parts) ∧
    ((Declarations.typeSpecs (file.fileMasked .placement).parts).filterMap Tree.declared?).Nodup ∧
    (Engine.check ⟨[⟨Rule.lowercaseStart, .warning⟩]⟩ ⟨"main.go", (lowerFile file).1⟩
      (lowerFile file).2.resolver).length = 1 ∧
    Engine.check ⟨[⟨Rule.lowercaseStart, .warning⟩]⟩ ⟨"main.go", (lowerFile file').1⟩
      (lowerFile file').2.resolver = [] := by
  have hfiles : ∃ file ∈ Tree.ofSource? aliasFirst,
      ∃ file' ∈ Tree.ofSource? aliasLast,
      (file'.fileMasked .placement).others = (file.fileMasked .placement).others ∧
      (Declarations.typeSpecs (file'.fileMasked .placement).parts).Perm
        (Declarations.typeSpecs (file.fileMasked .placement).parts) ∧
      ((Declarations.typeSpecs (file.fileMasked .placement).parts).filterMap Tree.declared?).Nodup ∧
      (Engine.check ⟨[⟨Rule.lowercaseStart, .warning⟩]⟩ ⟨"main.go", (lowerFile file).1⟩
        (lowerFile file).2.resolver).length = 1 ∧
      Engine.check ⟨[⟨Rule.lowercaseStart, .warning⟩]⟩ ⟨"main.go", (lowerFile file').1⟩
        (lowerFile file').2.resolver = [] := by
    simp only [Tree.ofSource?_eq]
    decide +kernel
  obtain ⟨file, hfile, file', hfile', hdiffer⟩ := hfiles
  exact ⟨file, file', hfile, hfile', hdiffer⟩

end Go

end LogStyle
