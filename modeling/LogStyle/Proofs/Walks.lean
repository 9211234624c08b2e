import LogStyle.Bundled
import LogStyle.Proofs.Discovering

/-!
# What the program's own walk gives

The files below a directory are found by what the file system holds, and ignore files have no
extension of a Go file. So the walk is as it has to be wherever everything has a name.

* `Ignore.mem_walk`: what the walk gives.
* `Ignore.walk_exact`: **it gives names, and no entry twice.**
* `Ignore.walk_steady`: **what Go files hold does not matter to it.**
-/

namespace LogStyle

namespace Bindings

variable {κ : Type u} {α : Type v} [DecidableEq κ]

theorem nodup_eraseDups (keys : List κ) : keys.eraseDups.Nodup := by
  cases keys with
  | nil => simp
  | cons k keys =>
    rw [List.eraseDups_cons, List.nodup_cons]
    exact ⟨by simp [List.mem_eraseDups], nodup_eraseDups _⟩
termination_by keys.length
decreasing_by
  have hle := List.length_filter_le (fun b => !b == k) keys
  rw [List.length_cons]
  omega

theorem nodup_keys (b : Bindings κ α) : b.keys.Nodup := nodup_eraseDups _

end Bindings

namespace Ignore

variable {fs fs' : FileSystem} {root : String} {place : Place} {respectGitignore : Bool}
  {names : List String}

theorem mem_namesBelow : names ∈ namesBelow fs place ↔
    names ≠ [] ∧ ∃ content, fs.entry? (place ++ names) = some (.file content) := by
  simp only [namesBelow, List.mem_filterMap, Option.filter_eq_some_iff, FileSystem.mem_filePlaces,
    List.isPrefixOf?_eq_some_iff_append_eq, Bool.not_eq_true', List.isEmpty_eq_false_iff]
  constructor
  · rintro ⟨p, hp, rfl, hne⟩
    exact ⟨hne, hp⟩
  · rintro ⟨hne, hp⟩
    exact ⟨_, hp, rfl, hne⟩

theorem nodup_namesBelow (fs : FileSystem) (place : Place) : (namesBelow fs place).Nodup := by
  refine List.Nodup.filterMap ?_ (fs.entries.nodup_keys.filter _)
  intro p p' names hp hp'
  simp only [Option.mem_def, Option.filter_eq_some_iff, List.isPrefixOf?_eq_some_iff_append_eq]
    at hp hp'
  exact hp.1.symm.trans hp'.1

/-- The walk gives the files below the root that are not left out. -/
theorem mem_walk {entry : Except String (List String)} : entry ∈ walk fs root respectGitignore ↔
    ∃ place names, fs.resolve? root = some place ∧ names ≠ [] ∧
      (∃ content, fs.entry? (place ++ names) = some (.file content)) ∧
      isVisible fs respectGitignore root place names = true ∧ .ok names = entry := by
  unfold walk
  cases fs.resolve? root with
  | none => simp
  | some place => simp [mem_namesBelow, and_assoc]

/-- **The walk gives names, and no entry twice.** -/
theorem walk_exact (hnamed : fs.Named) : walk.Exact fs where
  named root respectGitignore names h := by
    obtain ⟨place, names, -, -, ⟨content, hfile⟩, -, hentry⟩ := mem_walk.1 h
    obtain rfl := Except.ok.inj hentry
    exact fun name hname => hnamed _ _ hfile name (List.mem_append_right place hname)
  nodup root respectGitignore := by
    unfold walk
    cases fs.resolve? root with
    | none => exact List.nodup_nil
    | some place =>
      simp only [List.filterMap_map, Function.comp_def, Except.toOption, List.filterMap_some]
      exact (nodup_namesBelow fs place).filter _

/-- The names of ignore files have no extension, or another one. -/
theorem handles_source (directory : Place) (source : Source) :
    (directory ++ source.place).getLast?.any Go.handles = false := by
  have hnames : ∀ name ∈ [".ignore", ".gitignore", "exclude"], Go.handles name = false := by
    decide +kernel
  cases source <;> rw [List.getLast?_append] <;> simpa [Source.place] using hnames _ (by simp)

theorem isVisible_congr (h : rulesAt fs' = rulesAt fs) :
    isVisible fs' respectGitignore = isVisible fs respectGitignore := by
  have hverdict : verdictOf? fs' = verdictOf? fs := by
    funext e source
    simp only [verdictOf?, h]
  funext root place names
  simp only [isVisible, skips, verdictFor?, hverdict]

/-- **What Go files hold does not matter to the walk.** -/
theorem walk_steady (fs : FileSystem) : walk.Steady fs := by
  intro fs' h root respectGitignore entry
  have hrules : rulesAt fs' = rulesAt fs := by
    funext directory source
    rw [rulesAt, rulesAt, h.kept _ (handles_source directory source)]
  simp only [mem_walk, h.alike.resolve?, h.alike.isFileAt, isVisible_congr hrules]

end Ignore

end LogStyle
