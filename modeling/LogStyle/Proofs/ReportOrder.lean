import LogStyle.Proofs.Choice
import LogStyle.Proofs.Sources
import LogStyle.Proofs.Verdict
import Mathlib.Data.List.Perm.Basic

/-!
# The order of a report

Files are checked one after the other and their violations are sorted by path, line and column. The
sort does not look at anything else of a violation, and still the report depends on nothing but the
set of files: violations at one place come from one file, and a stable sort keeps them as they are.

* `Sorting.mergeSort_congr`: a stable sort is determined by what it sees of each class of elements
  that need not be told apart.
* `Path.compare_eq_eq_iff`: paths are at one place in the order exactly if they have the same
  components.
* `Engine.checkAll_of_perm`: **the files may be checked in any order, and violations at one place
  keep the order in which they were found.**
-/

namespace LogStyle

variable {ρ : Type} [MessageRule ρ]

/-! ## Stable sorting -/

namespace Sorting

variable {α β : Type} {le : α → α → Bool}

/-- Two elements that an order does not tell apart. -/
def tied (le : α → α → Bool) (a b : α) : Bool := le a b && le b a

/-- Two sorted lists with the same elements in each class, in the same order, are equal. -/
theorem eq_of_filter_tied {l l' : List α} (hrefl : ∀ a, le a a = true)
    (hl : l.Pairwise (le · · = true)) (hl' : l'.Pairwise (le · · = true))
    (h : ∀ a, l.filter (tied le a) = l'.filter (tied le a)) : l = l' := by
  have hself : ∀ a, tied le a a = true := fun a => by simp [tied, hrefl]
  have hmem : ∀ a, a ∈ l ↔ a ∈ l' := by
    intro a
    have := congrArg (a ∈ ·) (h a)
    simpa only [List.mem_filter, hself, and_true, eq_iff_iff] using this
  induction l generalizing l' with
  | nil =>
    symm
    refine List.eq_nil_iff_forall_not_mem.2 fun a ha => ?_
    exact List.not_mem_nil ((hmem a).2 ha)
  | cons a rest ih =>
    cases l' with
    | nil => exact absurd ((hmem a).1 List.mem_cons_self) List.not_mem_nil
    | cons b rest' =>
      -- the heads are tied, because each of them stands before the other
      have hab : le a b = true := by
        rcases List.mem_cons.1 ((hmem b).2 List.mem_cons_self) with rfl | hb
        · exact hrefl _
        · exact List.rel_of_pairwise_cons hl hb
      have hba : le b a = true := by
        rcases List.mem_cons.1 ((hmem a).1 List.mem_cons_self) with rfl | ha
        · exact hrefl _
        · exact List.rel_of_pairwise_cons hl' ha
      have hheads : a :: rest.filter (tied le a) = b :: rest'.filter (tied le a) := by
        have htied : tied le a b = true := by simp [tied, hab, hba]
        simpa only [List.filter_cons_of_pos (hself a), List.filter_cons_of_pos htied] using h a
      obtain rfl : a = b := (List.cons.inj hheads).1
      have htails : ∀ c, rest.filter (tied le c) = rest'.filter (tied le c) := by
        intro c
        have hc := h c
        rw [List.filter_cons, List.filter_cons] at hc
        split at hc
        · exact (List.cons.inj hc).2
        · exact hc
      refine congrArg (a :: ·) (ih hl.of_cons hl'.of_cons htails fun c => ?_)
      have := congrArg (c ∈ ·) (htails c)
      simpa only [List.mem_filter, hself, and_true, eq_iff_iff] using this

/-- A stable sort is determined by what a list holds of each class, in order. -/
theorem mergeSort_congr (htrans : ∀ a b c, le a b = true → le b c = true → le a c = true)
    (htotal : ∀ a b, (le a b || le b a) = true) {l l' : List α}
    (h : ∀ a, l.filter (tied le a) = l'.filter (tied le a)) :
    l.mergeSort le = l'.mergeSort le := by
  have hrefl : ∀ a, le a a = true := fun a => by simpa using htotal a a
  have hclass : ∀ a b c, tied le a b = true → tied le a c = true → le b c = true := by
    intro a b c hb hc
    simp only [tied, Bool.and_eq_true] at hb hc
    exact htrans b a c hb.2 hc.1
  refine eq_of_filter_tied hrefl (List.pairwise_mergeSort htrans htotal l)
    (List.pairwise_mergeSort htrans htotal l') fun a => ?_
  rw [Edit.filter_mergeSort htrans htotal (hclass a),
    Edit.filter_mergeSort htrans htotal (hclass a), h a]

/-- Pieces of which at most one holds anything may be joined in any order. -/
theorem flatMap_congr_perm {f : α → List β} {l l' : List α} (h : l.Perm l')
    (hf : l.Pairwise fun a b => f a = [] ∨ f b = []) : l.flatMap f = l'.flatMap f := by
  induction h with
  | nil => rfl
  | cons a _ ih => rw [List.flatMap_cons, List.flatMap_cons, ih hf.of_cons]
  | swap a b rest =>
    have hnil : f b = [] ∨ f a = [] := List.rel_of_pairwise_cons hf List.mem_cons_self
    simp only [List.flatMap_cons]
    rcases hnil with hnil | hnil <;> simp [hnil]
  | trans h₁ _ ih₁ ih₂ =>
    have hsymm : ∀ {a b}, f a = [] ∨ f b = [] → f b = [] ∨ f a = [] := Or.symm
    rw [ih₁ hf, ih₂ (h₁.pairwise hf hsymm)]

end Sorting

/-! ## The order of paths -/

section

open Std

theorem transCmp_on {α β : Type} {cmp : α → α → Ordering} [TransCmp cmp] (f : β → α) :
    TransCmp fun a b => cmp (f a) (f b) where
  eq_swap {a b} := @OrientedCmp.eq_swap _ cmp _ (f a) (f b)
  isLE_trans {a b c} := @TransCmp.isLE_trans _ cmp _ (f a) (f b) (f c)

namespace Path

/-- The name in a component, if it has one. -/
def Component.text : Component → String
  | name text => text
  | _ => ""

theorem Component.compare_eq :
    Component.compare = compareLex (compareOn Component.rank) (compareOn Component.text) := by
  funext a b
  cases a <;> cases b <;> rfl

instance : TransCmp Component.compare := by
  rw [Component.compare_eq]
  infer_instance

instance : LawfulEqCmp Component.compare where
  compare_self {a} := by cases a <;> simp [Component.compare]
  eq_of_compare {a b} h := by
    cases a <;> cases b <;> simp [Component.compare, Component.rank] at h ⊢
    exact h

theorem compareComponents_eq : compareComponents = List.compareLex Component.compare := by
  funext as bs
  induction as generalizing bs with
  | nil => cases bs <;> rfl
  | cons a as ih =>
    cases bs with
    | nil => rfl
    | cons b bs => rw [compareComponents, List.compareLex_cons_cons, ih]

instance : TransCmp compare := by
  have : TransCmp compareComponents := by
    rw [compareComponents_eq]
    infer_instance
  exact transCmp_on components

/-- Paths are at one place in the order exactly if they have the same components. -/
theorem compare_eq_eq_iff {p q : String} : compare p q = .eq ↔ components p = components q := by
  rw [compare, compareComponents_eq]
  exact LawfulEqCmp.compare_eq_iff_eq

end Path

instance : TransCmp Violation.compareByPlace := by
  have hfile : TransCmp fun v w : Violation => Path.compare v.location.file w.location.file :=
    transCmp_on fun v : Violation => v.location.file
  exact inferInstanceAs (TransCmp (compareLex
    (fun v w : Violation => Path.compare v.location.file w.location.file)
    (compareLex (compareOn fun v : Violation => v.location.line)
      (compareOn fun v : Violation => v.location.column))))

end

/-! ## The violations at one place -/

/-- Whether a violation is at a place of a file. -/
def Violation.isAt (file : String) (line column : Nat) (v : Violation) : Bool :=
  Path.same v.location.file file && v.location.line = line && v.location.column = column

/-- The order of a report, as it is given to the sort. -/
def Violation.atOrBefore (v w : Violation) : Bool := (v.compareByPlace w).isLE

namespace Violation

variable {v w : Violation}

theorem atOrBefore_trans (u v w : Violation) (huv : atOrBefore u v = true)
    (hvw : atOrBefore v w = true) : atOrBefore u w = true :=
  Std.TransCmp.isLE_trans huv hvw

theorem compareByPlace_swap (v w : Violation) :
    w.compareByPlace v = (v.compareByPlace w).swap :=
  Std.OrientedCmp.eq_swap

theorem atOrBefore_total (v w : Violation) : (atOrBefore v w || atOrBefore w v) = true := by
  unfold atOrBefore
  rw [compareByPlace_swap v w]
  cases v.compareByPlace w <;> rfl

theorem tied_atOrBefore :
    Sorting.tied atOrBefore v w = w.isAt v.location.file v.location.line v.location.column := by
  have htied : Sorting.tied atOrBefore v w = true ↔ v.compareByPlace w = .eq := by
    unfold Sorting.tied atOrBefore
    rw [compareByPlace_swap v w]
    cases v.compareByPlace w <;> simp
  rw [Bool.eq_iff_iff, htied, compareByPlace]
  simp only [Ordering.then_eq_eq, Path.compare_eq_eq_iff, Nat.compare_eq_eq, isAt, Path.same,
    Bool.and_eq_true, decide_eq_true_eq, and_assoc]
  exact and_congr eq_comm (and_congr eq_comm eq_comm)

end Violation

namespace Engine

variable {engine : Engine ρ} {unit : SourceUnit} {types : Resolver} {v : Violation}

/-- A violation is placed in the file in which it was found. -/
theorem file_of_mem_check (h : v ∈ engine.check unit types) : v.location.file = unit.path := by
  obtain ⟨call, -, argument, -, hv⟩ := mem_check.1 h
  rw [location_of_mem_checkMessage hv]
  rfl

theorem check_filter_isAt {file : String} (h : Path.components unit.path ≠ Path.components file)
    (line column : Nat) : (engine.check unit types).filter (·.isAt file line column) = [] := by
  refine List.filter_eq_nil_iff.2 fun v hv hat => h ?_
  simp only [Violation.isAt, Path.same, Bool.and_eq_true, decide_eq_true_eq] at hat
  rw [← file_of_mem_check hv, hat.1.1]

variable {units units' : List (SourceUnit × Resolver)}

/-- Among files with different paths, at most one has violations at a given place. -/
theorem pairwise_check_isAt (h : (units.map fun u => Path.components u.1.path).Nodup)
    (file : String) (line column : Nat) :
    units.Pairwise fun u w =>
      (engine.check u.1 u.2).filter (·.isAt file line column) = [] ∨
        (engine.check w.1 w.2).filter (·.isAt file line column) = [] := by
  have hne : units.Pairwise fun u w =>
      Path.components u.1.path ≠ Path.components w.1.path := List.pairwise_map.1 h
  refine hne.imp fun {u w} huw => ?_
  by_cases hu : Path.components u.1.path = Path.components file
  · exact .inr (check_filter_isAt (fun hw => huw (hu.trans hw.symm)) line column)
  · exact .inl (check_filter_isAt hu line column)

/-- The violations at a place of a file are those that were found there, in the order in which they
were found. -/
theorem checkAll_filter_isAt (h : (units.map fun u => Path.components u.1.path).Nodup)
    (hunit : (unit, types) ∈ units) (line column : Nat) :
    (engine.checkAll units).violations.filter (·.isAt unit.path line column) =
      (engine.check unit types).filter (·.isAt unit.path line column) := by
  have hclass : ∀ v w : Violation, v.isAt unit.path line column = true →
      w.isAt unit.path line column = true → v.atOrBefore w = true := by
    intro v w hv hw
    simp only [Violation.isAt, Path.same, Bool.and_eq_true, decide_eq_true_eq] at hv hw
    have hpath : Path.compare v.location.file w.location.file = .eq :=
      Path.compare_eq_eq_iff.2 (hv.1.1.trans hw.1.1.symm)
    simp [Violation.atOrBefore, Violation.compareByPlace, hpath, hv, hw]
  have hsort : (engine.checkAll units).violations.filter (·.isAt unit.path line column) =
      units.flatMap fun u => (engine.check u.1 u.2).filter (·.isAt unit.path line column) := by
    rw [← List.filter_flatMap]
    exact Edit.filter_mergeSort Violation.atOrBefore_trans Violation.atOrBefore_total hclass _
  obtain ⟨front, back, rfl⟩ := List.append_of_mem hunit
  have hperm : (front ++ (unit, types) :: back).Perm ((unit, types) :: (front ++ back)) :=
    List.perm_middle
  rw [hsort, Sorting.flatMap_congr_perm hperm (pairwise_check_isAt h _ line column),
    List.flatMap_cons]
  -- the other files have other paths
  have hrest : ((unit, types) :: (front ++ back)).Pairwise fun u w =>
      Path.components u.1.path ≠ Path.components w.1.path :=
    hperm.pairwise (List.pairwise_map.1 h) Ne.symm
  have hnil : ((front ++ back).flatMap fun u =>
      (engine.check u.1 u.2).filter (·.isAt unit.path line column)) = [] := by
    refine List.flatMap_eq_nil_iff.2 fun u hu => ?_
    exact check_filter_isAt (List.rel_of_pairwise_cons hrest hu).symm line column
  rw [hnil, List.append_nil]

/-- **The files may be checked in any order.** The report holds the violations of the files, sorted
by file, line and column, and those at one place in the order in which they were found. -/
theorem checkAll_of_perm (h : (units.map fun u => Path.components u.1.path).Nodup)
    (hperm : units'.Perm units) :
    engine.checkAll units' = engine.checkAll units ∧
      (engine.checkAll units).violations.Perm
        (units.flatMap fun u => engine.check u.1 u.2) ∧
      (engine.checkAll units).violations.Pairwise (fun v w => (v.compareByPlace w).isLE) ∧
      (∀ u ∈ units, ∀ line column,
        (engine.checkAll units).violations.filter (·.isAt u.1.path line column) =
          (engine.check u.1 u.2).filter (·.isAt u.1.path line column)) ∧
      (engine.checkAll units).filesChecked = units.length := by
  refine ⟨?_, List.mergeSort_perm _ _, ?_, fun u hu => checkAll_filter_isAt h hu, rfl⟩
  · have hviolations : (engine.checkAll units').violations = (engine.checkAll units).violations := by
      refine Sorting.mergeSort_congr Violation.atOrBefore_trans Violation.atOrBefore_total
        fun v => ?_
      simp only [List.filter_flatMap, funext fun w => Violation.tied_atOrBefore (v := v) (w := w)]
      exact (Sorting.flatMap_congr_perm hperm.symm (pairwise_check_isAt h _ _ _)).symm
    have hfiles : (engine.checkAll units').filesChecked = (engine.checkAll units).filesChecked :=
      hperm.length_eq
    cases hr : engine.checkAll units'
    cases hr' : engine.checkAll units
    simp_all
  · exact List.pairwise_mergeSort Violation.atOrBefore_trans Violation.atOrBefore_total _

/-- Two files in one directory, written in two ways; a message of one of them breaks two rules at
one place. -/
theorem checkAll_of_perm_two : ∃ (engine : Engine Rule) (a b : SourceUnit × Resolver),
    ([b, a].map fun u => Path.components u.1.path).Nodup ∧
    (engine.check b.1 b.2).map (fun v => (v.place, v.rule)) =
      [("p//b.go:3:22", "lowercase-start")] ∧
    (engine.check a.1 a.2).map (fun v => (v.place, v.rule)) =
      [("p/a.go:3:22", "lowercase-start"), ("p/a.go:3:22", "no-special-chars")] ∧
    engine.checkAll [a, b] = engine.checkAll [b, a] ∧
    (engine.checkAll [b, a]).violations.filter (·.isAt "p/a.go" 3 22) =
      (engine.check a.1 a.2).filter (·.isAt "p/a.go" 3 22) := by
  let engine : Engine Rule := ⟨[⟨.lowercaseStart, .warning⟩, ⟨.noSpecialChars, .warning⟩]⟩
  have ha : ∃ tree ∈ Go.Tree.ofSource?
        "package p\nimport \"log/slog\"\nfunc f() \x7b slog.Info(\"Hello!\") \x7d",
      let a := Go.CheckedFile.ofTree "p/a.go" tree
      (engine.check a.unit a.types.resolver).map (fun v => (v.place, v.rule)) =
        [("p/a.go:3:22", "lowercase-start"), ("p/a.go:3:22", "no-special-chars")] := by
    simp only [Go.Tree.ofSource?_eq]
    decide +kernel
  have hb : ∃ tree ∈ Go.Tree.ofSource?
        "package p\nimport \"log/slog\"\nfunc g() \x7b slog.Info(\"Hello\") \x7d",
      let b := Go.CheckedFile.ofTree "p//b.go" tree
      (engine.check b.unit b.types.resolver).map (fun v => (v.place, v.rule)) =
        [("p//b.go:3:22", "lowercase-start")] := by
    simp only [Go.Tree.ofSource?_eq]
    decide +kernel
  obtain ⟨tree, -, ha⟩ := ha
  obtain ⟨tree', -, hb⟩ := hb
  let a := Go.CheckedFile.ofTree "p/a.go" tree
  let b := Go.CheckedFile.ofTree "p//b.go" tree'
  have hnodup : ([(b.unit, b.types.resolver), (a.unit, a.types.resolver)].map fun u =>
      Path.components u.1.path).Nodup := by
    change [Path.components "p//b.go", Path.components "p/a.go"].Nodup
    decide +kernel
  obtain ⟨hsame, -, -, hplaces, -⟩ := @checkAll_of_perm _ _ engine _ _ hnodup (.swap _ _ _)
  have hplace := hplaces (a.unit, a.types.resolver) (by simp) 3 22
  exact ⟨engine, (a.unit, a.types.resolver), (b.unit, b.types.resolver), hnodup, hb, ha, hsame,
    hplace⟩

end Engine

end LogStyle
