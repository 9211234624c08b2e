import LogStyle.Proofs.Cores
import LogStyle.Proofs.Translation

/-!
# Work on cores

With declarations that are known by their cores, every node leaves the same expressions behind, and
the notes that it writes are the cores of the notes.

* `Lower.Follows`: work that does on the core of a state what other work does on the state.
* `Translation.toCore`: the translation that takes types and states to their cores.
* `Tree.faithful_core`: **with the core of the declarations, every node does the same.**
-/

namespace LogStyle.Go

open Lower
open Declarations (Member)

namespace Lower

/-- Work that does on the core of a state what other work does on the state. -/
def Follows {α : Type} (x' x : Lower α) : Prop := ∀ s, x'.run s.core = ((x.run s).1, (x.run s).2.core)

theorem follows_recordType? (id : NodeId) (type : Option StaticType) :
    Follows (recordType? id (type.map StaticType.core)) (recordType? id type) := by
  cases type <;> exact fun s => rfl

end Lower

namespace Meaning

variable {c d : Declarations} (h : c.IsCore d)
include h

theorem follows_resolveIdentifier (id : NodeId) (name : String) :
    Follows (resolveIdentifier c id name) (resolveIdentifier d id name) := by
  intro s
  simp only [resolveIdentifier, run_bind, run_get, s.lookup_core, h.imports, h.contains_functions,
    h.package]
  rcases s.scopes.lookup name with _ | _ | type
  · cases d.imports.get? name with
    | some path => rfl
    | none =>
      cases d.functions.contains name <;> rfl
  · rfl
  · rfl

omit h

theorem follows_selectedName (use : Option Referent) :
    Follows (selectedName (use.map Referent.core)) (selectedName use) := by
  cases use <;> exact fun s => rfl

theorem follows_recordSelected (id : NodeId) (selected : Option Member) :
    Follows (recordSelected id (selected.map Declarations.Member.core)) (recordSelected id selected) := by
  rcases selected with _ | _ | _ <;> exact fun s => rfl

end Meaning

/-- Types and states are taken to their cores, and the expressions stay the same. -/
def Translation.toCore : Translation where
  type := StaticType.core
  state := State.core

namespace Tree

variable {c d : Declarations} (h : c.IsCore d) {t : Tree}
include h

theorem reads_core : Translation.toCore.Reads d c where
  field _ := rfl
  kind _ := rfl
  children t := (List.map_id t.children).symm
  names _ := rfl
  token _ := rfl
  identifiers _ := rfl
  operator _ := rfl
  typeOf := h.typeOf
  other _ := rfl

/-- With the core of the declarations, a node is finished in the same way. -/
theorem follows_finish (t : Tree) (id : NodeId) (form : Form) (es : List Expr) :
    Follows (t.finish c id (form.translated .toCore) es) (t.finish d id form es) := by
  have hmade : ∀ fieldId, t.made id fieldId (form.translated .toCore) es = t.made id fieldId form es := by
    intro fieldId
    cases form <;> rfl
  intro s
  refine Prod.ext ?_ ?_
  · rw [run_finish, run_finish]
    exact hmade s.next
  cases form with
  | name => exact (congrArg Prod.snd (Meaning.follows_resolveIdentifier h id t.text s) :)
  | paren =>
    rcases es with _ | ⟨inner, _ | ⟨next, rest⟩⟩
    · rfl
    · simp only [Form.translated, finish, run_bind, run_typeOf, s.note_type_core]
      exact congrArg Prod.snd (follows_recordType? id _ s)
    · rfl
  | binary operator =>
    rcases es with _ | ⟨left, _ | ⟨right, _ | ⟨next, rest⟩⟩⟩
    · rfl
    · rfl
    · simp only [Form.translated, finish, run_bind, run_typeOf, s.note_type_core, Meaning.sumType_core]
      by_cases hadd : operator = "+"
      · simp only [hadd, if_true]
        exact congrArg Prod.snd (follows_recordType? id _ s)
      · by_cases hcompare : Meaning.comparisons.contains operator = true
        · simp only [hadd, hcompare, if_true, if_false]
          exact (congrArg Prod.snd (follows_recordType? id (some (.other "bool")) s) :)
        · simp only [hadd, hcompare, if_false]
          exact congrArg Prod.snd (follows_recordType? id _ s)
    · rfl
  | select member =>
    rcases es with _ | ⟨operand, _ | ⟨next, rest⟩⟩
    · rfl
    · simp only [Form.translated, Translation.toCore, finish, run_bind, run_get,
        Meaning.selected?_core h, Meaning.selectedUse?_core h]
      have huse := Meaning.follows_selectedName (Meaning.selectedUse? d s operand member.text) s
      rw [huse]
      exact (congrArg Prod.snd (Meaning.follows_recordSelected id
        (Meaning.selected? d s operand member.text) _) :)
    · rfl
  | call =>
    rcases es with _ | ⟨callee, args⟩
    · rfl
    · unfold Form.translated finish
      rw [run_bind, run_bind, run_get, run_get, Meaning.callResults_core h]
      rcases Meaning.callResults d s callee with _ | ⟨single, _ | ⟨next, rest⟩⟩ <;> rfl
  | typed type => exact (congrArg Prod.snd (follows_recordType? id type s) :)
  | unary operator =>
    rcases es with _ | ⟨first, rest⟩
    · have hnone : (Meaning.unaryType operator none).map StaticType.core =
          Meaning.unaryType operator none := (Meaning.unaryType_core operator none).symm
      have hrun := follows_recordType? id (Meaning.unaryType operator none) s
      rw [hnone] at hrun
      exact (congrArg Prod.snd hrun :)
    · simp only [Form.translated, finish, run_bind, run_typeOf, s.note_type_core, Meaning.unaryType_core]
      exact congrArg Prod.snd (follows_recordType? id _ s)
  | literal | other => rfl

/-- **With the core of the declarations, every node does the same.** -/
theorem faithful_core : Translation.toCore.Faithful d c where
  toReads := reads_core h
  next _ := rfl
  bump _ := rfl
  push _ := rfl
  pop s := by
    have hpop := s.scopes.pop_core
    simp only [Translation.toCore, State.core, hpop]
  declare s name type := by
    have hdeclare := s.scopes.declare_core name type
    simp only [Translation.toCore, State.core, hdeclare]
  values s names es es' hes := by
    have hes' : es' = es := by simpa only [Translation.toCore, List.map_id'] using hes
    rw [hes']
    exact Meaning.valueTypes_core s es names
  finish s id t es es' hes := by
    have hes' : es' = es := by simpa only [Translation.toCore, List.map_id'] using hes
    rw [hes']
    have hfinish := follows_finish h t id (t.plan d).1 es s
    exact Prod.ext_iff.1 hfinish

/-- A file that is read with the core of what it declares. -/
theorem follows_takeAll (ts : List Tree) :
    Follows (Task.runAll c (Task.takeAll .statement ts)) (Task.runAll d (Task.takeAll .statement ts)) := by
  intro s
  have hdoes := fun t (_ : t ∈ ts) => (faithful_core h).does .statement t
  obtain ⟨hes, hs⟩ := Translation.Faithful.runTakeAll hdoes s
  simp only [Translation.toCore, List.map_id'] at hes hs
  exact Prod.ext hes hs

end Tree

end LogStyle.Go
