import LogStyle.Proofs.Coverage
import LogStyle.Proofs.Masking
import LogStyle.Proofs.Sources

/-!
# Messages have no say in what is recognised

Which calls a file makes, which of them log and with which argument is settled by names and types. Two
files that differ only in the wording of string literals make the same calls, and what is known about
them is the same.

* `lowerFile_wording`: the expressions of such files differ only in the wording of literals.
* `resolved_wording`: **the same calls of such files log, with the argument at the same place.**
* `resolved_rewritten`: **and so do those of files in which nodes have moved, up to their order.**
-/

namespace LogStyle.Go

open Lower

variable {file file' : Tree}

/-- The expressions of files that differ only in the wording of literals. -/
theorem lowerFile_wording (h : file'.fileMasked .wording = file.fileMasked .wording) :
    (lowerFile file').1.map (Expr.masked .wording) = (lowerFile file).1.map (Expr.masked .wording) ∧
      (lowerFile file').2 = (lowerFile file).2 := by
  -- the order of the expressions is that of their places, which are not hidden
  have hsort : ∀ es : List Expr,
      (es.mergeSort fun a b => a.span.start.offset ≤ b.span.start.offset).map (Expr.masked .wording) =
        (es.map (Expr.masked .wording)).mergeSort fun a b =>
          a.span.start.offset ≤ b.span.start.offset := by
    intro es
    refine List.map_mergeSort fun a _ b _ => ?_
    simp [Mask.span, Mask.wording]
  obtain ⟨hes, hstate⟩ := Tree.visited_of_masked (congrArg Tree.visited h)
  rw [Tree.lowerFile_eq, Tree.lowerFile_eq, hsort, hsort, hes, hstate]
  exact ⟨rfl, rfl⟩

/-- **The same calls of files that differ only in the wording of literals log, with the argument at
the same place.** In package clauses and imports, and where a name is expected, literals are read, so
that their wording is not left out. -/
theorem resolved_wording (h : file'.fileMasked .wording = file.fileMasked .wording) (path : String) :
    (lowerFile file').1.map (Expr.masked .wording) = (lowerFile file).1.map (Expr.masked .wording) ∧
    (lowerFile file').2 = (lowerFile file).2 ∧
    List.Forall₂ (fun call call' => call'.masked .wording = call.masked .wording ∧
        (LoggingApi.resolve? (lowerFile file').2.resolver call').map (·.index) =
          (LoggingApi.resolve? (lowerFile file).2.resolver call).map (·.index))
      (SourceUnit.calls ⟨path, (lowerFile file).1⟩) (SourceUnit.calls ⟨path, (lowerFile file').1⟩) := by
  obtain ⟨hes, htable⟩ := lowerFile_wording h
  refine ⟨hes, htable, ?_⟩
  have hcalls : List.Forall₂ (fun call call' => call = call')
      ((Expr.callsOfAll (lowerFile file).1).map (Expr.masked .wording))
      ((Expr.callsOfAll (lowerFile file').1).map (Expr.masked .wording)) := by
    rw [List.forall₂_eq_eq_eq, ← Expr.callsOfAll_masked, ← Expr.callsOfAll_masked, hes]
  rw [List.forall₂_map_left_iff, List.forall₂_map_right_iff] at hcalls
  refine hcalls.imp fun call call' hcall => ⟨hcall.symm, ?_⟩
  rw [htable, ← LoggingApi.index_masked .wording, ← hcall, LoggingApi.index_masked]

def greeting : String :=
  "package p\nimport \"log/slog\"\nfunc f() \x7b slog.Info(\"Hello\", g(\"a\")) \x7d"

def otherGreeting : String :=
  "package p\nimport \"log/slog\"\nfunc f() \x7b slog.Info(\"howdy\", g(\"b\")) \x7d"

/-- Two files that differ in a message, and a call that keeps its argument. -/
theorem resolved_greeting : ∃ file file' : Tree,
    Tree.ofSource? greeting = some file ∧
    Tree.ofSource? otherGreeting = some file' ∧
    file'.fileMasked .wording = file.fileMasked .wording ∧ file' ≠ file ∧
    (∃ call ∈ SourceUnit.calls ⟨"p.go", (lowerFile file).1⟩,
      (LoggingApi.resolve? (lowerFile file).2.resolver call).isSome = true) ∧
    List.Forall₂ (fun call call' => call'.masked .wording = call.masked .wording ∧
        (LoggingApi.resolve? (lowerFile file').2.resolver call').map (·.index) =
          (LoggingApi.resolve? (lowerFile file).2.resolver call).map (·.index))
      (SourceUnit.calls ⟨"p.go", (lowerFile file).1⟩)
      (SourceUnit.calls ⟨"p.go", (lowerFile file').1⟩) := by
  have hfiles : ∃ file ∈ Tree.ofSource? greeting,
      ∃ file' ∈ Tree.ofSource? otherGreeting,
      file'.fileMasked .wording = file.fileMasked .wording ∧ file' ≠ file ∧
      ∃ call ∈ SourceUnit.calls ⟨"p.go", (lowerFile file).1⟩,
        (LoggingApi.resolve? (lowerFile file).2.resolver call).isSome = true := by
    simp only [Tree.ofSource?_eq]
    decide +kernel
  obtain ⟨file, hfile, file', hfile', halike, hne, hcall⟩ := hfiles
  exact ⟨file, file', hfile, hfile', halike, hne, hcall, (resolved_wording halike "p.go").2.2⟩

/-! ## Rewritten files -/

/-- **Files that differ in what a mask hides make the same calls up to their order, and the same of
them log, with the argument at the same place.** A mask that hides wording and places leaves out all
that a rewriting of messages changes, as behind a message that becomes longer everything moves. -/
theorem resolved_rewritten (m : Mask) (h : file'.fileMasked m = file.fileMasked m) (path : String) :
    (lowerFile file').2 = (lowerFile file).2 ∧
    ((SourceUnit.calls ⟨path, (lowerFile file').1⟩).map fun call => (call.masked m,
        (LoggingApi.resolve? (lowerFile file').2.resolver call).map (·.index))).Perm
      ((SourceUnit.calls ⟨path, (lowerFile file).1⟩).map fun call => (call.masked m,
        (LoggingApi.resolve? (lowerFile file).2.resolver call).map (·.index))) := by
  obtain ⟨hes, hstate⟩ := Tree.visited_of_masked (congrArg Tree.visited h)
  have htable : (lowerFile file').2 = (lowerFile file).2 := congrArg State.table hstate
  have hcalls := (perm_callsOfAll (Tree.perm_lowerFile_masked hes)).map fun call =>
    (call, (LoggingApi.resolve? (lowerFile file).2.resolver call).map (·.index))
  rw [← LoggingApi.indices_masked, ← LoggingApi.indices_masked] at hcalls
  rw [htable]
  exact ⟨rfl, hcalls⟩

def longGreeting : String :=
  "package p\nimport \"log/slog\"\nfunc f() \x7b slog.Info(\"good morning\", g(\"b\")) \x7d"

/-- A message of another length, so that what is behind it has moved. -/
theorem resolved_rewritten_longer : ∃ file file' : Tree,
    Tree.ofSource? greeting = some file ∧ Tree.ofSource? longGreeting = some file' ∧
    file'.fileMasked .wording ≠ file.fileMasked .wording ∧
    (lowerFile file').2 = (lowerFile file).2 ∧
    (SourceUnit.calls ⟨"p.go", (lowerFile file').1⟩).filterMap (fun call =>
      (LoggingApi.resolve? (lowerFile file').2.resolver call).map (·.index)) = [0] := by
  have hfiles : ∃ file ∈ Tree.ofSource? greeting, ∃ file' ∈ Tree.ofSource? longGreeting,
      file'.fileMasked .wording ≠ file.fileMasked .wording ∧
      file'.fileMasked .rewriting = file.fileMasked .rewriting ∧
      (SourceUnit.calls ⟨"p.go", (lowerFile file).1⟩).filterMap (fun call =>
        (LoggingApi.resolve? (lowerFile file).2.resolver call).map (·.index)) = [0] := by
    simp only [Tree.ofSource?_eq]
    decide +kernel
  obtain ⟨file, hfile, file', hfile', hmoved, halike, hindex⟩ := hfiles
  obtain ⟨htable, hcalls⟩ := resolved_rewritten .rewriting halike "p.go"
  have hindices := (hcalls.map Prod.snd).filterMap id
  simp only [List.filterMap_map, Function.comp_def, id] at hindices
  rw [hindex, List.perm_singleton] at hindices
  exact ⟨file, file', hfile, hfile', hmoved, htable, hindices⟩

end LogStyle.Go
