import LogStyle.Proofs.Discovering
import LogStyle.Proofs.Rereading

/-!
# Reading a fixed file

The parser is all that is relied on: where the tree of a fixed file is what becomes of the tree of
the file, the messages of the fixed file are what becomes of the messages of the file.

* `Tree.sim_visited`: **the calls of a file and of the fixed file correspond.**
* `Reparses`: what is relied on.
* `Reparses.readsBack`: **what a fixed file says is what it said, up to the replacements.**
-/

namespace LogStyle

namespace Go

open Lower

variable {r : Rewrite} {t t' : Tree}

/-! ## Files -/

theorem paired_empty : State.Paired {} {} := ⟨rfl, fun _ _ => rfl, fun _ _ => rfl⟩

theorem mem_callsOfAll {es : List Expr} {call : Expr} :
    call ∈ Expr.callsOfAll es ↔ (∃ e ∈ es, call ∈ e.nodes) ∧ call.isCall = true := by
  have hnodes : call ∈ Expr.nodesOfAll es ↔ ∃ e ∈ es, call ∈ e.nodes := by
    induction es with
    | nil => simp [Expr.nodesOfAll]
    | cons e es ih => simp [Expr.nodesOfAll, ih]
  rw [Expr.callsOfAll, List.mem_filter, hnodes]

namespace Tree

/-- The top level of a file in the order in which it is visited. -/
def ordered (file : Tree) : List Tree :=
  file.parts.filter isVariableDeclaration ++ file.parts.filter (!isVariableDeclaration ·)

/-- The expressions of a file in the order in which they are visited, and the state in the end. -/
def visited (file : Tree) : List Expr × State :=
  (Meaning.visitEach (meanings (Declarations.ofTrees file.parts) file.ordered)).run {}

theorem lowerFile_eq (file : Tree) : lowerFile file =
    (file.visited.1.mergeSort fun a b => a.span.start.offset ≤ b.span.start.offset,
      file.visited.2.table) :=
  rfl

/-- Sorting changes no more than the order of the expressions. -/
theorem perm_lowerFile (file : Tree) : (lowerFile file).1.Perm file.visited.1 :=
  List.mergeSort_perm _ _

theorem mem_calls_lowerFile {file : Tree} {call : Expr} :
    call ∈ Expr.callsOfAll (lowerFile file).1 ↔ call ∈ Expr.callsOfAll file.visited.1 := by
  rw [lowerFile_eq, mem_callsOfAll, mem_callsOfAll]
  simp only [List.mem_mergeSort]

theorem meanings_ordered (d : Declarations) (file : Tree) :
    meanings d file.ordered =
      let ms := Meaning.named (file.children.map (meaning d))
      ms.filter (fun m => isVariableDeclaration m.tree) ++
        ms.filter (fun m => !isVariableDeclaration m.tree) := by
  rw [meanings_eq, ordered, List.map_append, named_meanings]
  simp only [List.filter_map, Function.comp_def, tree_meaning]
  rfl

theorem sim_ordered (d : Declarations) (h : becomes r t t' = true) (hargs : t.arguments ⊆ r.arguments)
    (hkind : t.kind ≠ .argumentList) :
    List.Forall₂ (Meaning.Sim r) (meanings d t.ordered) (meanings d t'.ordered) := by
  obtain ⟨field, kind, span, text, children⟩ := t
  obtain ⟨-, -, -, -, hchildren⟩ := becomes_iff.1 h
  have hfalse : decide (kind = .argumentList) = false := decide_eq_false hkind
  change becomesAll r (decide (kind = .argumentList)) children t'.children = true at hchildren
  rw [arguments] at hargs
  rw [hfalse] at hchildren hargs
  have hnamed := Meaning.forall₂_named (sim_meanings d children t'.children hchildren hargs)
  have hdeclares : ∀ m m' : Meaning, Meaning.Sim r m m' →
      isVariableDeclaration m'.tree = isVariableDeclaration m.tree := by
    intro m m' hm
    have hkind := hm.kind
    unfold Meaning.kind at hkind
    rw [isVariableDeclaration, isVariableDeclaration, hkind]
  rw [meanings_ordered, meanings_ordered]
  refine List.rel_append ((forall₂_filter hnamed hdeclares).imp fun _ _ h => h.1) ?_
  refine (forall₂_filter hnamed fun m m' hm => ?_).imp fun _ _ h => h.1
  rw [hdeclares m m' hm]

/-- **The calls of a file and of the fixed file correspond.** -/
theorem sim_visited (h : becomes r t t' = true) (hargs : t.arguments ⊆ r.arguments)
    (hkind : t.kind ≠ .argumentList) :
    SameCalls r ⟨0, t.visited.2⟩ ⟨0, t'.visited.2⟩ t.visited.1 t'.visited.1 := by
  have hskeleton := skeleton_of_becomes t t' h
  have hkind' : t'.kind ≠ .argumentList := by
    rwa [kind_eq hskeleton]
  have hdeclared : Declarations.ofTrees t'.parts = Declarations.ofTrees t.parts := by
    rw [← Declarations.ofTrees_skeleton, ← parts_skeleton hkind', hskeleton, parts_skeleton hkind,
      Declarations.ofTrees_skeleton]
  unfold visited
  rw [hdeclared]
  have hsim := sim_ordered (Declarations.ofTrees t.parts) h hargs hkind
  have hvisits := Meaning.sim_visitEach (hsim.imp fun _ _ hm => hm.visit)
  exact (hvisits {} {} paired_empty).related

end Tree

end Go

/-! ## Messages -/

open Go

theorem ParsedFile.mem_messages {file : ParsedFile} {m : Expr} :
    m ∈ file.messages ↔ ∃ call ∈ Expr.callsOfAll file.tree.visited.1, ∃ a,
      LoggingApi.resolve? file.tree.visited.2.table.resolver call = some a ∧ a.expr = m := by
  have hchecked : file.checked =
      ⟨⟨file.display, (lowerFile file.tree).1⟩, (lowerFile file.tree).2⟩ := rfl
  rw [messages, hchecked]
  simp only [SourceUnit.messages, List.mem_filterMap, Option.map_eq_some_iff]
  exact exists_congr fun call => and_congr_left fun _ => Tree.mem_calls_lowerFile

/-- What is relied on when a fixed file is read: the root of its tree is no list of arguments, literals
that are arguments cover some text, arguments at one place are the same literal, if they are literals,
and the fixed file has a tree, which is what becomes of the one before. The trees may well be what is
recovered of texts with errors. -/
structure Reparses (reader : Reader) (violations : List Violation) (file : ParsedFile) : Prop where
  root : file.tree.kind ≠ .argumentList
  nonempty : ∀ c ∈ file.tree.arguments, c.raw?.isSome = true → 0 < c.span.length
  apart : ∀ c ∈ file.tree.arguments, ∀ c' ∈ file.tree.arguments,
    Location.ofSpan file.display c.span = Location.ofSpan file.display c'.span → c.raw? = c'.raw?
  again : ∃ tree ∈ reader.tree? (Fixes.corrected violations file.toSourceFile).text,
    file.tree.becomes
      ⟨Fixes.made violations file.toSourceFile, file.display, file.tree.arguments⟩ tree = true

instance {reader : Reader} {violations : List Violation} {file : ParsedFile} :
    Decidable (Reparses reader violations file) :=
  decidable_of_iff (file.tree.kind ≠ .argumentList ∧
      (∀ c ∈ file.tree.arguments, c.raw?.isSome = true → 0 < c.span.length) ∧
      (∀ c ∈ file.tree.arguments, ∀ c' ∈ file.tree.arguments,
        Location.ofSpan file.display c.span = Location.ofSpan file.display c'.span →
          c.raw? = c'.raw?) ∧
      ∃ tree ∈ reader.tree? (Fixes.corrected violations file.toSourceFile).text, file.tree.becomes
        ⟨Fixes.made violations file.toSourceFile, file.display, file.tree.arguments⟩ tree = true)
    ⟨fun ⟨hroot, hnonempty, hapart, hagain⟩ => ⟨hroot, hnonempty, hapart, hagain⟩,
      fun h => ⟨h.root, h.nonempty, h.apart, h.again⟩⟩

section

variable {reader : Reader} {violations : List Violation} {file fixed : ParsedFile}

/-- **What a fixed file says is what it said, up to the replacements.** -/
theorem Reparses.readsBack (h : Reparses reader violations file)
    (htext : fixed.text = (Fixes.corrected violations file.toSourceFile).text)
    (htree : reader.tree? fixed.text = some fixed.tree) : ReadsBack violations file fixed := by
  obtain ⟨tree, htree', hbecomes⟩ := h.again
  rw [htext] at htree
  obtain rfl : tree = fixed.tree := Option.some.inj (htree'.symm.trans htree)
  have hcalls := Tree.sim_visited hbecomes (List.Subset.refl _) h.root
  -- a message of the file with what becomes of it
  have hforth : ∀ m ∈ file.messages, ∃ m' ∈ fixed.messages,
      Argument ⟨Fixes.made violations file.toSourceFile, file.display, file.tree.arguments⟩
        ⟨0, file.tree.visited.2⟩ ⟨0, fixed.tree.visited.2⟩ m m' := by
    intro m hm
    obtain ⟨call, hcall, a, ha, rfl⟩ := ParsedFile.mem_messages.1 hm
    obtain ⟨call', hcall', hpair⟩ := exists_right_of_forall₂ hcalls hcall
    rcases hpair.resolve? with ⟨hnone, -⟩ | ⟨b, b', hb, hb', hargument⟩
    · exact absurd (ha.symm.trans hnone) (by simp)
    · obtain rfl := Option.some.inj (ha.symm.trans hb)
      exact ⟨_, ParsedFile.mem_messages.2 ⟨call', hcall', b', hb', rfl⟩, hargument⟩
  refine ⟨?_, ?_, ?_, ?_⟩
  · intro m hm hliteral
    obtain ⟨m', -, hargument⟩ := hforth m hm
    obtain ⟨c, hc, hspan, hraw⟩ := hargument.origin
    exact hspan ▸ h.nonempty c hc (hraw ▸ hliteral)
  · intro m hm n hn hloc
    obtain ⟨m', -, hargument⟩ := hforth m hm
    obtain ⟨n', -, hargument'⟩ := hforth n hn
    obtain ⟨c, hc, hspan, hraw⟩ := hargument.origin
    obtain ⟨c', hc', hspan', hraw'⟩ := hargument'.origin
    rw [← hraw, ← hraw']
    exact h.apart c hc c' hc' (by rw [hspan, hspan', hloc])
  · intro m hm
    obtain ⟨m', hm', hargument⟩ := hforth m hm
    exact ⟨m', hm', hargument.corrected⟩
  · intro m' hm'
    obtain ⟨call', hcall', b', hb', rfl⟩ := ParsedFile.mem_messages.1 hm'
    obtain ⟨call, hcall, hpair⟩ := exists_left_of_forall₂ hcalls hcall'
    rcases hpair.resolve? with ⟨-, hnone⟩ | ⟨a, a', ha, ha', hargument⟩
    · exact absurd (hb'.symm.trans hnone) (by simp)
    · obtain rfl := Option.some.inj (hb'.symm.trans ha')
      exact ⟨_, ParsedFile.mem_messages.2 ⟨call, hcall, a, ha, rfl⟩, hargument.corrected⟩

end

end LogStyle
