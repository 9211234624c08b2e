import LogStyle.Proofs.DocumentOrder
import LogStyle.Proofs.ReportOrder
import LogStyle.Proofs.Shifting
import LogStyle.Proofs.TypeOrder

/-!
# The order of functions

Functions and methods may be declared in any order. Their bodies see the same declarations and the same
names, and what is found in one of them does not depend on those that come before it. The violations
are listed by where they are, and not in the order in which they were found.

* `Bindings.find?_perm`: keys that are bound once may be bound in any order.
* `Declarations.foldl_addSignature_eq`: what the functions and methods among some nodes add.
* `Tree.Movable`, `Tree.Moved`: files whose functions may be moved, and files with moved functions.
* `Tree.exists_isCore_moved`: files with moved functions declare the same.
* `Tree.found_ordered`: what is found in a file, declaration by declaration.
* `Tree.filter_found_eq_nil`: in different declarations no expressions begin at the same place.
* `checked_moved`: **where functions and methods are moved, the same violations are found in the same
  order.**
-/

namespace LogStyle

variable {ρ : Type} [MessageRule ρ]

namespace Bindings

variable {κ : Type u} {α : Type v} [DecidableEq κ]

theorem find?_append (k : κ) (xs ys : List (κ × α)) :
    find? k (xs ++ ys) = (find? k xs).or (find? k ys) := by
  induction xs with
  | nil => rfl
  | cons x xs ih =>
    rw [List.cons_append, find?, find?, ih]
    split <;> rfl

/-- Keys that are bound once may be bound in any order. -/
theorem find?_perm {xs ys : List (κ × α)} (h : xs.Perm ys) (hnodup : (xs.map (·.1)).Nodup) (k : κ) :
    find? k xs = find? k ys := by
  induction h with
  | nil => rfl
  | cons x _ ih => rw [find?, find?, ih hnodup.of_cons]
  | swap x y rest =>
    have hne : y.1 ≠ x.1 := List.rel_of_pairwise_cons hnodup List.mem_cons_self
    simp only [find?]
    by_cases hx : k = x.1
    · have hy : k ≠ y.1 := fun hy => hne (hy.symm.trans hx)
      rw [if_neg hy, if_pos hx, if_pos hx]
    · rw [if_neg hx, if_neg hx]
  | trans h₁ _ ih₁ ih₂ =>
    exact (ih₁ hnodup).trans (ih₂ ((h₁.map _).nodup_iff.1 hnodup))

theorem get?_perm {xs ys base : List (κ × α)} (h : xs.Perm ys) (hnodup : (xs.map (·.1)).Nodup)
    (k : κ) : get? ⟨xs.reverse ++ base⟩ k = get? ⟨ys.reverse ++ base⟩ k := by
  have hreverse : xs.reverse.Perm ys.reverse :=
    (List.reverse_perm xs).trans (h.trans (List.reverse_perm ys).symm)
  have hkeys : (xs.reverse.map (·.1)).Nodup := by
    rw [List.map_reverse]
    exact (List.reverse_perm _).nodup_iff.2 hnodup
  rw [get?, get?, find?_append, find?_append, find?_perm hreverse hkeys]

end Bindings

namespace Go

open Lower

namespace Tree

def isFunction (t : Tree) : Bool := t.kind = .functionDeclaration || t.kind = .methodDeclaration

/-- The name under which a function is declared. -/
def functionName? (t : Tree) : Option String :=
  if t.kind = .functionDeclaration then (t.child? .name).map text else none

/-- The type and the name under which a method is declared. -/
def methodName? (t : Tree) : Option (String × String) :=
  if t.kind = .methodDeclaration then
    (t.child? .name).bind fun name =>
      ((t.child? .receiver).bind Declarations.receiverName?).map fun receiver => (receiver, name.text)
  else none

/-- Whether a node is a declaration, or a heading, of a file. -/
def isDeclaration (t : Tree) : Bool :=
  t.isHeading || t.isTypeDeclaration || isVariableDeclaration t || t.isFunction

end Tree

/-! ## What functions declare -/

namespace Declarations

variable (d : Declarations) (functions : Bindings String (List StaticType))
  (methods : Bindings (String × String) (List StaticType))

/-- Functions and methods play no part for what a node denotes. -/
theorem typeOf_signatures (t : Tree) :
    typeOf { d with functions := functions, methods := methods } t = d.typeOf t := by
  have hqualified : ∀ u, typeQualified { d with functions := functions, methods := methods } u =
      d.typeQualified u := fun _ => rfl
  have hnamed : ∀ name, typeNamed { d with functions := functions, methods := methods } name =
      d.typeNamed name := fun _ => rfl
  exact typeOf_related (R := fun a b => a = b) (fun _ => rfl)
    (fun _ _ htarget => congrArg StaticType.pointer htarget) hqualified t fun name _ => hnamed name

theorem resultTypes_signatures (result : Option Tree) :
    resultTypes { d with functions := functions, methods := methods } result =
      d.resultTypes result := by
  have hentry : resultEntry { d with functions := functions, methods := methods } =
      d.resultEntry := by
    funext entry
    unfold resultEntry
    simp only [typeOf_signatures]
  cases result with
  | none => rfl
  | some result => simp only [resultTypes, hentry, typeOf_signatures]

/-- A name that a node declares in some way, with the types of the results. -/
def signature? {κ : Type} (name? : Tree → Option κ) (t : Tree) : Option (κ × List StaticType) :=
  (name? t).map fun name => (name, d.resultTypes (t.child? .result))

theorem signature?_signatures {κ : Type} (name? : Tree → Option κ) :
    signature? { d with functions := functions, methods := methods } name? = d.signature? name? := by
  funext t
  simp only [signature?, resultTypes_signatures]

theorem keys_signature? {κ : Type} (name? : Tree → Option κ) (ts : List Tree) :
    (ts.filterMap (d.signature? name?)).map (·.1) = ts.filterMap name? := by
  rw [List.map_filterMap]
  refine List.filterMap_congr fun t _ => ?_
  rw [signature?, Option.map_map]
  exact Option.map_id'

theorem addSignature_eq (t : Tree) : d.addSignature t =
    { d with
      functions := ⟨(d.signature? Tree.functionName? t).toList ++ d.functions.entries⟩
      methods := ⟨(d.signature? Tree.methodName? t).toList ++ d.methods.entries⟩ } := by
  unfold addSignature signature? Tree.functionName? Tree.methodName?
  cases t.child? .name with
  | none => simp
  | some name =>
    generalize t.kind = kind
    cases kind
    case functionDeclaration => simp [Bindings.insert]
    case methodDeclaration =>
      cases (t.child? .receiver).bind receiverName? <;> simp [Bindings.insert]
    all_goals simp

/-- **What the functions and methods among some nodes add.** -/
theorem foldl_addSignature_eq (ts : List Tree) : ts.foldl addSignature d =
    { d with
      functions :=
        ⟨(ts.filterMap (d.signature? Tree.functionName?)).reverse ++ d.functions.entries⟩
      methods := ⟨(ts.filterMap (d.signature? Tree.methodName?)).reverse ++ d.methods.entries⟩ } := by
  induction ts generalizing d with
  | nil => rfl
  | cons t ts ih =>
    rw [List.foldl_cons, ih, addSignature_eq]
    cases hfunction : d.signature? Tree.functionName? t <;>
      cases hmethod : d.signature? Tree.methodName? t <;>
      simp [hfunction, hmethod, signature?_signatures]

end Declarations

/-! ## Files with moved functions -/

namespace Tree

/-- A file whose functions may be moved. At the top level there are declarations only, which lie apart,
and no function and no method is declared twice. Every node covers some text inside of its parent. -/
structure Movable (file : Tree) : Prop where
  declarations : ∀ t ∈ file.parts, t.isDeclaration = true
  functions : (file.parts.filterMap functionName?).Nodup
  methods : (file.parts.filterMap methodName?).Nodup
  covers : ∀ t ∈ file.subtrees, t.span.start.offset < t.span.stop.offset
  inside : ∀ t ∈ file.subtrees, ∀ c ∈ t.children, c.span.Inside t.span
  apart : file.parts.Pairwise fun a b => a.span.Apart b.span

instance (file : Tree) : Decidable file.Movable :=
  decidable_of_iff ((∀ t ∈ file.parts, t.isDeclaration = true) ∧
      (file.parts.filterMap functionName?).Nodup ∧ (file.parts.filterMap methodName?).Nodup ∧
      (∀ t ∈ file.subtrees, t.span.start.offset < t.span.stop.offset) ∧
      (∀ t ∈ file.subtrees, ∀ c ∈ t.children, c.span.Inside t.span) ∧
      file.parts.Pairwise fun a b => a.span.Apart b.span)
    ⟨fun ⟨h₁, h₂, h₃, h₄, h₅, h₆⟩ => ⟨h₁, h₂, h₃, h₄, h₅, h₆⟩,
      fun h => ⟨h.declarations, h.functions, h.methods, h.covers, h.inside, h.apart⟩⟩

/-- Files that differ in the order of their functions and methods, and in where these stand among the
other declarations. -/
structure Moved (file file' : Tree) : Prop where
  others : file'.children.filter (!·.isFunction) = file.children.filter (!·.isFunction)
  functions : (file'.children.filter isFunction).Perm (file.children.filter isFunction)

instance (file file' : Tree) : Decidable (Moved file file') :=
  decidable_of_iff (_ ∧ _) ⟨fun h => ⟨h.1, h.2⟩, fun h => ⟨h.others, h.functions⟩⟩

variable {file file' : Tree}

namespace Moved

variable (h : Moved file file')
include h

theorem perm_parts : file'.parts.Perm file.parts := by
  have hchildren : file'.children.Perm file.children := by
    refine (List.filter_append_perm isFunction file'.children).symm.trans ?_
    refine List.Perm.trans ?_ (List.filter_append_perm isFunction file.children)
    rw [h.others]
    exact h.functions.append_right _
  exact hchildren.filter _

/-- All that is no function stays in its order. -/
theorem filter_parts {p : Tree → Bool} (hp : ∀ t, t.isFunction = true → p t = false) :
    file'.parts.filter p = file.parts.filter p := by
  have hfilter : ∀ file : Tree, file.parts.filter p =
      ((file.children.filter (!·.isFunction)).filter isNamed).filter p := by
    intro file
    rw [parts, List.filter_filter, List.filter_filter, List.filter_filter]
    refine List.filter_congr fun t _ => ?_
    cases hfunction : t.isFunction with
    | true => simp [hp t hfunction]
    | false => simp
  rw [hfilter, h.others, ← hfilter]

theorem filter_kind {kind : Kind} (hfunction : kind ≠ .functionDeclaration)
    (hmethod : kind ≠ .methodDeclaration) :
    file'.parts.filter (·.kind = kind) = file.parts.filter (·.kind = kind) := by
  refine h.filter_parts fun t ht => decide_eq_false ?_
  rintro rfl
  simp [isFunction, hfunction, hmethod] at ht

end Moved

/-- Files with moved functions declare the same functions and methods. -/
theorem declarations_moved (h : Movable file) (hmoved : Moved file file') :
    ∃ functions methods,
      file'.declarations = { file.declarations with functions := functions, methods := methods } ∧
      (∀ name, functions.get? name = file.declarations.functions.get? name) ∧
      ∀ key, methods.get? key = file.declarations.methods.get? key := by
  have hpackage : Declarations.packageName file'.parts = Declarations.packageName file.parts := by
    rw [Declarations.packageName, hmoved.filter_kind (by decide) (by decide),
      Declarations.packageName]
  have himports : ImportTable.ofTrees file'.parts = ImportTable.ofTrees file.parts := by
    rw [ImportTable.ofTrees, hmoved.filter_kind (by decide) (by decide), ImportTable.ofTrees]
  have hspecs : Declarations.typeSpecs file'.parts = Declarations.typeSpecs file.parts := by
    rw [Declarations.typeSpecs, hmoved.filter_kind (by decide) (by decide), Declarations.typeSpecs]
  -- functions and methods are added to what the other declarations give, which is the same
  obtain ⟨d, hd, hd'⟩ : ∃ d : Declarations,
      file.declarations = file.parts.foldl Declarations.addSignature d ∧
        file'.declarations = file'.parts.foldl Declarations.addSignature d := by
    refine ⟨_, rfl, ?_⟩
    rw [declarations, Declarations.ofTrees, Declarations.addTypes, hspecs, hpackage, himports]
    rfl
  rw [hd, hd', Declarations.foldl_addSignature_eq, Declarations.foldl_addSignature_eq]
  have hperm := hmoved.perm_parts
  refine ⟨_, _, rfl, fun name => ?_, fun key => ?_⟩
  · refine (Bindings.get?_perm (hperm.symm.filterMap _) ?_ name).symm
    rw [Declarations.keys_signature?]
    exact h.functions
  · refine (Bindings.get?_perm (hperm.symm.filterMap _) ?_ key).symm
    rw [Declarations.keys_signature?]
    exact h.methods

/-- Files with moved functions declare the same, as far as it is used. -/
theorem exists_isCore_moved (h : Movable file) (hmoved : Moved file file') :
    ∃ c : Declarations, c.IsCore file.declarations ∧ c.IsCore file'.declarations := by
  obtain ⟨functions, methods, hdeclarations, hfunctions, hmethods⟩ := declarations_moved h hmoved
  have hcore := Declarations.isCore_core file.declarations
  refine ⟨file.declarations.core, hcore, ?_⟩
  rw [hdeclarations]
  exact { hcore with
    functions := fun name => by rw [hfunctions, hcore.functions]
    methods := fun key => by rw [hmethods, hcore.methods] }

/-! ## What is found in a file -/

/-- With the core of the declarations the same is found. -/
theorem found_core {c d : Declarations} (h : c.IsCore d) (engine : Engine ρ) (path : String)
    (ts : List Tree) : found engine path c {} ts = found engine path d {} ts := by
  have hrun : alone c {} ts = ((alone d {} ts).1, (alone d {} ts).2.core) := follows_takeAll h ts {}
  have hcalls : engine.checkCall path (alone d {} ts).2.core.table.resolver =
      engine.checkCall path (alone d {} ts).2.table.resolver :=
    funext (Engine.checkCall_core engine path (alone d {} ts).2.table)
  rw [found, hrun, Engine.reports, hcalls, found, Engine.reports]

/-- Functions, types and headings bind no names at the top level. -/
theorem scopes_alone {d : Declarations} {t : Tree} (h : t.isDeclaration = true)
    (hvariable : isVariableDeclaration t = false) (scopes : Scopes) :
    (alone d scopes [t]).2.scopes = scopes := by
  have hrun : (alone d scopes [t]).2 =
      ((Task.runAll d (t.work d)).run { scopes := scopes }).2 := by
    rw [alone, Task.runAll_takeAll_cons, does, visit_eq]
    rfl
  have hnothing : t.work d = [] → (alone d scopes [t]).2.scopes = scopes := by
    intro hwork
    rw [hrun, hwork]
    rfl
  simp only [isDeclaration, isHeading, isTypeDeclaration, isFunction, hvariable, Bool.or_eq_true,
    decide_eq_true_eq, Bool.false_eq_true, or_false] at h
  rcases h with ((hkind | hkind) | hkind) | hfunction
  · exact hnothing (by rw [work, hkind])
  · exact hnothing (by rw [work, hkind])
  · exact hnothing (by rw [work, hkind])
  · have hblock : t.kind.opensBlock = true := by
      rcases hfunction with hkind | hkind <;> rw [hkind] <;> rfl
    obtain ⟨tasks, hwork⟩ := work_of_opensBlock hblock d
    have hbinds : Task.Binds d (t.work d) { scopes := scopes } [] := hwork ▸ .block .nil
    rw [hrun, hbinds.scopes_runAll]
    rfl

/-- What is found in a file whose declarations bind no names, apart from variables and constants: what
is found in these, and then what is found in each of the others. -/
theorem found_ordered (h : ∀ t ∈ file.parts, t.isDeclaration = true) (engine : Engine ρ)
    (path : String) (d : Declarations) : found engine path d {} file.ordered =
      found engine path d {} (file.parts.filter isVariableDeclaration) ++
        (file.parts.filter (!isVariableDeclaration ·)).flatMap fun t => found engine path d
          (alone d {} (file.parts.filter isVariableDeclaration)).2.scopes [t] := by
  rw [ordered, found_append]
  refine congrArg _ (found_eq_flatMap engine path fun t ht => ?_)
  obtain ⟨ht, hvariable⟩ := List.mem_filter.1 ht
  exact scopes_alone (h t ht) (by simpa using hvariable) _

/-- The order by where expressions begin. -/
def startsBefore (a b : Nat × List Violation) : Bool := a.1 ≤ b.1

/-- The violations of a file, by where the expressions begin in which they are found. -/
theorem check_eq_found (engine : Engine ρ) (path : String) (file : Tree) :
    engine.check ⟨path, (lowerFile file).1⟩ (lowerFile file).2.resolver =
      ((found engine path file.declarations {} file.ordered).mergeSort startsBefore).flatMap (·.2) := by
  have hvisited : file.visited = alone file.declarations {} file.ordered := visited_eq file
  have hsort := List.map_mergeSort (l := file.visited.1)
    (r := fun a b => decide (a.span.start.offset ≤ b.span.start.offset)) (s := startsBefore)
    (f := fun e => (e.span.start.offset,
      e.calls.flatMap (engine.checkCall path file.visited.2.table.resolver))) fun _ _ _ _ => rfl
  rw [Engine.check_eq_reports, lowerFile_eq, Engine.reports, hsort, found, ← hvisited, Engine.reports]

/-! ## Places -/

/-- The expressions that a node leaves behind lie where nodes of it lie. -/
theorem exists_span_does (d : Declarations) : ∀ role (t : Tree) (s : State),
    ∀ e ∈ ((t.does d role).run s).1, ∃ u ∈ t.subtrees, e.span = u.span := by
  refine does_induction d fun role t ih => ?_
  have hcomposes : Composes fun x => ∀ s, ∀ e ∈ (x.run s).1, ∃ u ∈ t.subtrees, e.span = u.span :=
    { nothing := fun _ _ he => by cases he
      append := fun {x y} hx hy s e he => by
        rcases List.mem_append.1 he with he | he
        · exact hx s e he
        · exact hy (x.run s).2 e he
      inBlock := fun hx s e he => hx { s with scopes := s.scopes.push } e he
      declares := fun g hx hy s e he => by
        rw [hy] at he
        exact hx s e he }
  cases role with
  | expression =>
    intro s e he
    rw [List.mem_singleton.1 he]
    exact ⟨t, mem_subtrees_self t, (reads_meaning d t s).1⟩
  | statement =>
    rw [does, visit_eq]
    refine Task.runAll_of_taken hcomposes (t.work d) fun role c hc s e he => ?_
    have htaken : (role, c) ∈ Task.takenIn (t.tasks d .statement) := hc
    obtain ⟨u, hu, hspan⟩ := ih role c hc s e he
    exact ⟨u, mem_subtrees_of_mem_tasks htaken hu, hspan⟩

section

variable {engine : Engine ρ} {path : String} {d : Declarations} {scopes : Scopes} {a b t : Tree}
  {r : Nat × List Violation}

theorem exists_start (h : r ∈ found engine path d scopes [t]) :
    ∃ u ∈ t.subtrees, r.1 = u.span.start.offset := by
  have hrun : (alone d scopes [t]).1 = ((t.does d .statement).run { scopes := scopes }).1 ++ [] := by
    rw [alone, Task.runAll_takeAll_cons]
    rfl
  obtain ⟨e, he, rfl⟩ := List.mem_map.1 h
  rw [hrun, List.append_nil] at he
  obtain ⟨u, hu, hspan⟩ := exists_span_does d .statement t _ e he
  exact ⟨u, hu, by rw [hspan]⟩

/-- In declarations that lie apart, no expressions begin at the same place. -/
theorem filter_found_eq_nil (h : Movable file) (ha : a ∈ file.parts) (hb : b ∈ file.parts)
    (hapart : a.span.Apart b.span) (x : Nat × List Violation) :
    (found engine path d scopes [a]).filter (Sorting.tied startsBefore x) = [] ∨
      (found engine path d scopes [b]).filter (Sorting.tied startsBefore x) = [] := by
  -- something that begins at a place of a declaration covers some text of it
  have hplace : ∀ t ∈ file.parts, (found engine path d scopes [t]).filter
      (Sorting.tied startsBefore x) ≠ [] → t.span.start.offset ≤ x.1 ∧ x.1 < t.span.stop.offset := by
    intro t ht hne
    obtain ⟨r, hr⟩ := List.exists_mem_of_ne_nil _ hne
    obtain ⟨hr, htied⟩ := List.mem_filter.1 hr
    obtain ⟨u, hu, hstart⟩ := exists_start hr
    have hsubtree : ∀ v ∈ t.subtrees, v ∈ file.subtrees := fun v hv =>
      mem_subtrees_of_children (mem_children_of_mem_parts ht) hv
    have hcovers := h.covers u (hsubtree u hu)
    have hinside : u.span.Inside t.span :=
      inside_subtrees t (fun v hv => h.inside v (hsubtree v hv)) u hu
    simp only [Sorting.tied, startsBefore, Bool.and_eq_true, decide_eq_true_eq] at htied
    unfold Span.Inside at hinside
    omega
  by_contra hboth
  rw [not_or] at hboth
  obtain ⟨hstart, hstop⟩ := hplace a ha hboth.1
  obtain ⟨hstart', hstop'⟩ := hplace b hb hboth.2
  unfold Span.Apart at hapart
  omega

end

end Tree

/-! ## What is reported -/

/-- **Where functions and methods are moved, the same violations are found in the same order.** -/
theorem checked_moved {file file' : Tree} (h : file.Movable) (hmoved : Tree.Moved file file')
    (engine : Engine ρ) (path : String) :
    engine.check ⟨path, (lowerFile file').1⟩ (lowerFile file').2.resolver =
      engine.check ⟨path, (lowerFile file).1⟩ (lowerFile file).2.resolver := by
  obtain ⟨c, hc, hc'⟩ := Tree.exists_isCore_moved h hmoved
  have hperm := hmoved.perm_parts
  have hdeclarations : ∀ t ∈ file'.parts, t.isDeclaration = true := fun t ht =>
    h.declarations t (hperm.mem_iff.1 ht)
  have hvariables : file'.parts.filter isVariableDeclaration =
      file.parts.filter isVariableDeclaration := by
    refine hmoved.filter_parts fun t ht => ?_
    unfold Tree.isFunction at ht
    unfold isVariableDeclaration
    generalize t.kind = kind at ht
    cases kind <;> first | rfl | cases ht
  rw [Tree.check_eq_found, Tree.check_eq_found, ← Tree.found_core hc, ← Tree.found_core hc',
    Tree.found_ordered h.declarations, Tree.found_ordered hdeclarations, hvariables]
  refine congrArg (fun l : List (Nat × List Violation) => l.flatMap (·.2)) ?_
  -- the sort is stable, and at each place at most one of the declarations has something to report
  refine Sorting.mergeSort_congr ?_ ?_ fun x => ?_
  · intro a b d hab hbd
    exact decide_eq_true (Nat.le_trans (of_decide_eq_true hab) (of_decide_eq_true hbd))
  · intro a b
    simp only [Tree.startsBefore, Bool.or_eq_true, decide_eq_true_eq]
    exact Nat.le_total a.1 b.1
  · simp only [List.filter_append, List.filter_flatMap]
    refine congrArg _ (Sorting.flatMap_congr_perm (hperm.filter _).symm ?_).symm
    refine List.Pairwise.imp_of_mem ?_ (h.apart.filter _)
    intro a b ha hb hapart
    exact Tree.filter_found_eq_nil h (List.mem_of_mem_filter ha) (List.mem_of_mem_filter hb) hapart x

/-- A file with its functions from the last to the first, before all else. -/
def Tree.withFunctionsFirst (file : Tree) : Tree :=
  .node file.field file.kind file.span file.text
    ((file.children.filter isFunction).reverse ++ file.children.filter (!·.isFunction))

/-- A function that logs through what a method gives, which is declared behind it. -/
def loggingMethod : String :=
  "package p\nimport \"log/slog\"\ntype S struct \x7b\x7d\n" ++
    "func f(s S) \x7b s.log().Info(\"Hello\") \x7d\nfunc (s S) log() *slog.Logger\n"

/-- A function that logs through what a method gives, which is declared after it or before it. -/
theorem checked_moved_method : ∃ file : Tree,
    Tree.ofSource? loggingMethod = some file ∧
    file.Movable ∧ Tree.Moved file file.withFunctionsFirst ∧
    file.parts.map Tree.kind = [.packageClause, .importDeclaration, .typeDeclaration,
      .functionDeclaration, .methodDeclaration] ∧
    file.withFunctionsFirst.parts.map Tree.kind = [.methodDeclaration, .functionDeclaration,
      .packageClause, .importDeclaration, .typeDeclaration] ∧
    (Engine.check ⟨[⟨Rule.lowercaseStart, .warning⟩]⟩ ⟨"p.go", (lowerFile file).1⟩
      (lowerFile file).2.resolver).length = 1 ∧
    Engine.check ⟨[⟨Rule.lowercaseStart, .warning⟩]⟩ ⟨"p.go", (lowerFile file.withFunctionsFirst).1⟩
        (lowerFile file.withFunctionsFirst).2.resolver =
      Engine.check ⟨[⟨Rule.lowercaseStart, .warning⟩]⟩ ⟨"p.go", (lowerFile file).1⟩
        (lowerFile file).2.resolver := by
  have hfile : ∃ file ∈ Tree.ofSource? loggingMethod,
      file.Movable ∧ Tree.Moved file file.withFunctionsFirst ∧
      file.parts.map Tree.kind = [.packageClause, .importDeclaration, .typeDeclaration,
        .functionDeclaration, .methodDeclaration] ∧
      file.withFunctionsFirst.parts.map Tree.kind = [.methodDeclaration, .functionDeclaration,
        .packageClause, .importDeclaration, .typeDeclaration] ∧
      (Engine.check ⟨[⟨Rule.lowercaseStart, .warning⟩]⟩ ⟨"p.go", (lowerFile file).1⟩
        (lowerFile file).2.resolver).length = 1 := by
    rw [Tree.ofSource?_eq]
    decide +kernel
  obtain ⟨file, hfile, hmovable, hmoved, hkinds, hkinds', hlength⟩ := hfile
  exact ⟨file, hfile, hmovable, hmoved, hkinds, hkinds', hlength,
    checked_moved hmovable hmoved _ "p.go"⟩

end Go

end LogStyle
