import LogStyle.Command.Fixes
import LogStyle.Proofs.Places
import Mathlib.Data.List.Basic

/-!
# File systems whose files are written again

Fixes change the contents of files and nothing else, so that all paths lead where they led before.
Writing goes on up to the first file that is locked.

* `FileSystem.Alike`: file systems that differ at most in what their files hold.
* `FileSystem.Named`: everything stands under names that files can have.
* `Fixes.Touched`: what is changed are files of some fixes, and they hold their new texts.
* `Fixes.write_touched`: **writing changes nothing else, also if it fails.**
* `Fixes.write_eq_ok_iff`: it fails exactly if one of the files is locked.
* `Fixes.write_written`: **fixes of different files are written as they are planned.**
-/

namespace LogStyle

def Entry.isDirectory : Entry → Bool
  | directory => true
  | file _ => false

namespace FileSystem

/-- File systems that differ at most in what their files hold. -/
structure Alike (fs fs' : FileSystem) : Prop where
  current : fs'.current = fs.current
  locked : fs'.locked = fs.locked
  entry : ∀ place, (fs'.entry? place).map Entry.isDirectory = (fs.entry? place).map Entry.isDirectory

namespace Alike

variable {fs fs' fs'' : FileSystem} {place : Place}

theorem refl (fs : FileSystem) : Alike fs fs := ⟨rfl, rfl, fun _ => rfl⟩

theorem trans (h : Alike fs fs') (h' : Alike fs' fs'') : Alike fs fs'' :=
  ⟨h'.current.trans h.current, h'.locked.trans h.locked,
    fun place => (h'.entry place).trans (h.entry place)⟩

theorem isFileAt (h : Alike fs fs') :
    (∃ content, fs'.entry? place = some (.file content)) ↔
      ∃ content, fs.entry? place = some (.file content) := by
  have hfile : ∀ e : Option Entry, (∃ content, e = some (.file content)) ↔
      e.map Entry.isDirectory = some false := by
    intro e
    rcases e with _ | _ | _ <;> simp [Entry.isDirectory]
  rw [hfile, hfile, h.entry]

theorem isDirectoryAt (h : Alike fs fs') : fs'.isDirectoryAt place = fs.isDirectoryAt place := by
  have hdir : ∀ fs : FileSystem, fs.isDirectoryAt place =
      decide ((fs.entry? place).map Entry.isDirectory = some true) := by
    intro fs
    rw [FileSystem.isDirectoryAt]
    rcases fs.entry? place with _ | _ | _ <;> simp [Entry.isDirectory]
  rw [hdir, hdir, h.entry]

theorem isSome (h : Alike fs fs') : (fs'.entry? place).isSome = (fs.entry? place).isSome := by
  rw [← Option.isSome_map (f := Entry.isDirectory), h.entry, Option.isSome_map]

theorem walk (h : Alike fs fs') (pieces : List String) :
    fs'.walk place pieces = fs.walk place pieces := by
  induction pieces generalizing place with
  | nil => simp only [FileSystem.walk, h.isSome]
  | cons piece pieces ih => simp only [FileSystem.walk, h.isDirectoryAt, ih]

theorem resolve? (h : Alike fs fs') (path : String) : fs'.resolve? path = fs.resolve? path := by
  simp only [FileSystem.resolve?, h.current, h.walk]

theorem isFile (h : Alike fs fs') (path : String) : fs'.isFile path = fs.isFile path := by
  have hfile : ∀ fs : FileSystem, fs.isFile path =
      decide (((fs.resolve? path).bind fs.entry?).map Entry.isDirectory = some false) := by
    intro fs
    rw [FileSystem.isFile, find?]
    rcases (fs.resolve? path).bind fs.entry? with _ | _ | _ <;> simp [Entry.isDirectory]
  rw [hfile, hfile, h.resolve?, Option.map_bind, Option.map_bind]
  simp only [Function.comp_def, h.entry]

end Alike

/-- Files are not found at the root. -/
theorem ne_nil_of_entry? {fs : FileSystem} {place : Place} {content : Content}
    (h : fs.entry? place = some (.file content)) : place ≠ [] := by
  rintro rfl
  cases h

theorem entry?_set {fs : FileSystem} {place p : Place} {entry : Entry} (hplace : place ≠ []) :
    entry? (fs.set place entry) p = if p = place then some entry else fs.entry? p := by
  unfold entry? set
  rw [Bindings.get?_insert]
  split
  · rename_i hp
    rw [if_neg]
    exact fun h => hplace (h ▸ hp)
  · rfl

theorem alike_set {fs : FileSystem} {place : Place} {content content' : Content}
    (h : fs.entry? place = some (.file content)) : fs.Alike (fs.set place (.file content')) := by
  refine ⟨rfl, rfl, fun p => ?_⟩
  rw [entry?_set <| ne_nil_of_entry? h]
  split
  · rename_i hp
    rw [hp, h]
    rfl
  · rfl

end FileSystem

theorem Bindings.mem_keys {κ : Type u} {α : Type v} [DecidableEq κ] {b : Bindings κ α} {k : κ} :
    k ∈ b.keys ↔ (b.get? k).isSome := by
  have hfind : ∀ l : List (κ × α), k ∈ l.map (·.1) ↔ (find? k l).isSome := by
    intro l
    induction l with
    | nil => simp [find?]
    | cons x l ih =>
      by_cases hk : k = x.1
      · simp [find?, hk]
      · simp [find?, hk, ← ih]
  rw [keys, List.mem_eraseDups]
  exact hfind b.entries

theorem FileSystem.mem_filePlaces {fs : FileSystem} {place : Place} :
    place ∈ fs.filePlaces ↔ ∃ content, fs.entry? place = some (.file content) := by
  unfold filePlaces
  rw [List.mem_filter, Bindings.mem_keys]
  constructor
  · rintro ⟨-, h⟩
    split at h
    · exact ⟨_, ‹_›⟩
    · cases h
  · rintro ⟨content, h⟩
    refine ⟨?_, by rw [h]⟩
    have hget := h
    have hplace := ne_nil_of_entry? h
    unfold entry? at hget
    rw [if_neg hplace] at hget
    rw [hget]
    rfl

/-- Everything stands under names. -/
def FileSystem.Named (fs : FileSystem) : Prop :=
  ∀ place entry, fs.entry? place = some entry → ∀ name ∈ place, Path.IsName name

theorem FileSystem.named_of_keys {fs : FileSystem}
    (h : ∀ place ∈ fs.entries.keys, ∀ name ∈ place, Path.IsName name) : fs.Named := by
  intro place entry hentry
  unfold entry? at hentry
  split at hentry
  · rename_i hnil
    simp [hnil]
  · exact h place (Bindings.mem_keys.2 (by rw [hentry]; rfl))

/-- Writing to a file that is there: it is done unless the file is locked. -/
theorem FileSystem.write?_of_entry? {fs : FileSystem} {path : String} {place : Place}
    {content : Content} (hplace : fs.resolve? path = some place)
    (hentry : fs.entry? place = some (.file content)) (text : String) :
    fs.write? path text =
      if place ∈ fs.locked then none else some (fs.set place (.file (.text text))) := by
  simp [write?, placeToWrite?, hplace, hentry]

namespace Fixes

/-- What is changed are files of some fixes, and they hold their new texts. -/
structure Touched (fixes : List FileFix) (fs fs' : FileSystem) : Prop where
  alike : fs.Alike fs'
  changed : ∀ place, fs'.entry? place ≠ fs.entry? place →
    ∃ fix ∈ fixes, fs.resolve? fix.file.path = some place ∧
      fs'.entry? place = some (.file (.text fix.outcome.text))

/-- The files of some fixes hold their new texts, and everything else is as before. -/
structure Written (fixes : List FileFix) (fs fs' : FileSystem) : Prop
    extends Touched fixes fs fs' where
  new : ∀ fix ∈ fixes, ∀ place, fs.resolve? fix.file.path = some place →
    fs'.entry? place = some (.file (.text fix.outcome.text))

theorem Touched.kept {fixes : List FileFix} {fs fs' : FileSystem} (h : Touched fixes fs fs')
    {place : Place} (hplace : ∀ fix ∈ fixes, fs.resolve? fix.file.path ≠ some place) :
    fs'.entry? place = fs.entry? place := by
  by_contra hne
  obtain ⟨fix, hfix, hresolve, -⟩ := h.changed place hne
  exact hplace fix hfix hresolve

/-- The files of some fixes are there. -/
def Present (fixes : List FileFix) (fs : FileSystem) : Prop :=
  ∀ fix ∈ fixes, ∃ place content, fs.resolve? fix.file.path = some place ∧
    fs.entry? place = some (.file content)

theorem Present.of_alike {fixes : List FileFix} {fs fs' : FileSystem} (h : Present fixes fs)
    (halike : fs.Alike fs') : Present fixes fs' := by
  intro fix hfix
  obtain ⟨place, content, hplace, hentry⟩ := h fix hfix
  obtain ⟨content', hentry'⟩ := halike.isFileAt.2 ⟨content, hentry⟩
  exact ⟨place, content', (halike.resolve? _).trans hplace, hentry'⟩

section

variable {fs fs' : FileSystem} {fix : FileFix} {rest fixes : List FileFix} {place : Place}

theorem write_cons_of_locked (hplace : fs.resolve? fix.file.path = some place) {content : Content}
    (hentry : fs.entry? place = some (.file content)) (hlocked : place ∈ fs.locked) :
    write fs (fix :: rest) = (fs, [], .error (.unwritable fix.file.path)) := by
  rw [write, FileSystem.write?_of_entry? hplace hentry, if_pos hlocked]

theorem write_cons (hplace : fs.resolve? fix.file.path = some place) {content : Content}
    (hentry : fs.entry? place = some (.file content)) (hlocked : place ∉ fs.locked) :
    write fs (fix :: rest) =
      let (files, log, result) := write (fs.set place (.file (.text fix.outcome.text))) rest
      (files, fix.note?.toList ++ log, result) := by
  rw [write, FileSystem.write?_of_entry? hplace hentry, if_neg hlocked]

/-- What is touched after one file has been written. -/
theorem Touched.cons (hplace : fs.resolve? fix.file.path = some place) {content : Content}
    (hentry : fs.entry? place = some (.file content))
    (h : Touched rest (fs.set place (.file (.text fix.outcome.text))) fs') :
    Touched (fix :: rest) fs fs' := by
  have halike : fs.Alike (fs.set place (.file (.text fix.outcome.text))) :=
    FileSystem.alike_set hentry
  have hset := @FileSystem.entry?_set fs place
  refine ⟨halike.trans h.alike, fun p hp => ?_⟩
  by_cases hlater : fs'.entry? p =
      FileSystem.entry? (fs.set place (.file (.text fix.outcome.text))) p
  · rw [hlater, hset (FileSystem.ne_nil_of_entry? hentry)] at hp ⊢
    split at hp
    · rename_i heq
      rw [if_pos heq]
      exact ⟨fix, List.mem_cons_self, heq ▸ hplace, rfl⟩
    · exact absurd rfl hp
  · obtain ⟨other, hother, hresolve, hnew⟩ := h.changed p hlater
    exact ⟨other, List.mem_cons_of_mem _ hother, halike.resolve? _ ▸ hresolve, hnew⟩

/-- **Writing changes nothing but the files of the fixes,** also if it fails. -/
theorem write_touched (hpresent : Present fixes fs) : Touched fixes fs (write fs fixes).1 := by
  induction fixes generalizing fs with
  | nil => exact ⟨.refl fs, fun place hplace => absurd rfl hplace⟩
  | cons fix rest ih =>
    obtain ⟨place, content, hplace, hentry⟩ := hpresent fix List.mem_cons_self
    by_cases hlocked : place ∈ fs.locked
    · rw [write_cons_of_locked hplace hentry hlocked]
      exact ⟨.refl fs, fun place hplace => absurd rfl hplace⟩
    · rw [write_cons hplace hentry hlocked]
      have hrest : Present rest fs := fun other hother =>
        hpresent other (List.mem_cons_of_mem _ hother)
      exact .cons hplace hentry (ih (hrest.of_alike (FileSystem.alike_set hentry)))

/-- **Writing succeeds if none of the files is locked,** and only then. -/
theorem write_eq_ok_iff (hpresent : Present fixes fs) : (write fs fixes).2.2 = .ok () ↔
    ∀ fix ∈ fixes, ∀ place ∈ fs.resolve? fix.file.path, place ∉ fs.locked := by
  induction fixes generalizing fs with
  | nil => exact ⟨fun _ => by simp, fun _ => rfl⟩
  | cons fix rest ih =>
    obtain ⟨place, content, hplace, hentry⟩ := hpresent fix List.mem_cons_self
    rw [List.forall_mem_cons]
    by_cases hlocked : place ∈ fs.locked
    · rw [write_cons_of_locked hplace hentry hlocked]
      exact ⟨nofun, fun h => absurd hlocked (h.1 place hplace)⟩
    · rw [write_cons hplace hentry hlocked]
      have halike : fs.Alike (fs.set place (.file (.text fix.outcome.text))) :=
        FileSystem.alike_set hentry
      have hrest : Present rest fs := fun other hother =>
        hpresent other (List.mem_cons_of_mem _ hother)
      have ih := ih (hrest.of_alike halike)
      simp only [halike.resolve?, halike.locked] at ih
      rw [ih, hplace]
      exact ⟨fun h => ⟨fun p hp => Option.some.inj hp ▸ hlocked, h⟩, fun h => h.2⟩

/-- **Fixes of different files are written as they are planned.** -/
theorem write_written (hpresent : Present fixes fs)
    (hapart : ∀ a ∈ fixes, ∀ b ∈ fixes, ∀ place, fs.resolve? a.file.path = some place →
      fs.resolve? b.file.path = some place → a = b)
    (hok : (write fs fixes).2.2 = .ok ()) : Written fixes fs (write fs fixes).1 := by
  refine ⟨write_touched hpresent, ?_⟩
  induction fixes generalizing fs with
  | nil => simp
  | cons fix rest ih =>
    obtain ⟨place, content, hplace, hentry⟩ := hpresent fix List.mem_cons_self
    have hlocked : place ∉ fs.locked :=
      (write_eq_ok_iff hpresent).1 hok fix List.mem_cons_self place hplace
    rw [write_cons hplace hentry hlocked] at hok ⊢
    -- the first file is written, and all paths lead where they led before
    have halike : fs.Alike (fs.set place (.file (.text fix.outcome.text))) :=
      FileSystem.alike_set hentry
    have hrest : Present rest (fs.set place (.file (.text fix.outcome.text))) :=
      Present.of_alike (fun other hother => hpresent other (List.mem_cons_of_mem _ hother)) halike
    have htouched := write_touched hrest
    have hnew := ih hrest (by
      simp only [halike.resolve?]
      exact fun a ha b hb => hapart a (List.mem_cons_of_mem _ ha) b (List.mem_cons_of_mem _ hb)) hok
    simp only [halike.resolve?] at hnew
    intro other hother p hp
    rcases List.mem_cons.1 hother with rfl | hother'
    · obtain rfl := Option.some.inj (hplace.symm.trans hp)
      -- what is written to the same place later is the same text
      by_cases hlater : ∃ later ∈ rest, fs.resolve? later.file.path = some place
      · obtain ⟨later, hmem, hlater⟩ := hlater
        have htext := hnew later hmem place hlater
        rwa [← hapart other hother later (List.mem_cons_of_mem _ hmem) place hp hlater] at htext
      · have hkept := htouched.kept fun later hmem h =>
          hlater ⟨later, hmem, (halike.resolve? _).symm.trans h⟩
        rw [hkept, FileSystem.entry?_set (FileSystem.ne_nil_of_entry? hentry), if_pos rfl]
    · exact hnew other hother' p hp

end

end Fixes

end LogStyle
