import LogStyle.Proofs.Places
import Mathlib.Data.List.DropRight
import Mathlib.Data.List.Infix

/-!
# The way up from a path

The directories above the path of a place are the paths of the places above it. The directory of a
file, as far as its path tells it, is where the file stands, unless the path is a bare name: then it
is the empty path, which leads nowhere.

* `FileSystem.Standing`: there are only directories on the way to a place.
* `FileSystem.resolve?_path`: the path of a place leads to the place.
* `FileSystem.find?_join_path`: a name below the path of a directory is looked up in that directory.
* `Path.ancestors_path`: **the way up from the path of a place is the way up from the place.**
* `FileSystem.parent?_of_file`: **the directory of a file, for each spelling of its path.**
-/

namespace LogStyle

namespace Path

variable {path piece : String} {body names : List String}

theorem pieces_root (s : String) : pieces ("/" ++ s) = "" :: pieces s := by
  have hsplit : Text.split '/' ("/" ++ s).toList = [] :: Text.split '/' s.toList := by
    rw [String.toList_append]
    exact Text.split_append_cons [] s.toList
  rw [pieces, Text.splitString, hsplit]
  rfl

theorem isAbsolute_root (s : String) : isAbsolute ("/" ++ s) = true := by
  simp [isAbsolute]

theorem slashless_of_mem_pieces (h : piece ∈ pieces path) : '/' ∉ piece.toList := by
  obtain ⟨cs, hcs, rfl⟩ := List.mem_map.1 h
  rw [String.toList_ofList]
  exact Text.not_mem_of_mem_split hcs

theorem joinStrings_pieces (path : String) : Text.joinStrings '/' (pieces path) = path := by
  rw [Text.joinStrings, pieces, Text.splitString, List.map_map]
  have hid : (Text.split '/' path.toList).map (String.toList ∘ String.ofList) =
      Text.split '/' path.toList := List.map_id'' (fun cs => String.toList_ofList) _
  rw [hid, Text.join_split, String.ofList_toList]

theorem pieces_of_slashless (h : '/' ∉ path.toList) : pieces path = [path] := by
  rw [pieces, Text.splitString, Text.split_of_not_mem h, List.map_singleton, String.ofList_toList]

theorem isVoid_of_isName (h : IsName piece) : isVoid piece = false := by
  rw [isVoid, h.component]
  rfl

/-! ## Above the path of a place -/

theorem pieces_path (h : ∀ name ∈ names, IsName name) :
    pieces (Place.path names) = "" :: if names = [] then [""] else names := by
  rw [Place.path, pieces_root]
  split
  · rename_i hnil
    rw [hnil]
    rfl
  · rename_i hne
    rw [pieces_joinStrings hne fun name hname => (h name hname).slashless]

/-- Without empty pieces, one piece after the other is left out. -/
theorem above_eq_tails (h : ∀ piece ∈ body, isVoid piece = false) : above body = body.tails.tail := by
  induction body with
  | nil => rfl
  | cons piece rest ih =>
    have hrest : ∀ p ∈ rest, isVoid p = false := fun p hp => h p (List.mem_cons_of_mem _ hp)
    have hdrop : rest.dropWhile isVoid = rest := by
      cases rest with
      | nil => rfl
      | cons next others => rw [List.dropWhile_cons_of_neg (by simp [hrest next])]
    rw [above, h piece List.mem_cons_self, if_neg Bool.false_ne_true, hdrop, ih hrest]
    cases rest <;> rfl

/-- **The way up from the path of a place is the way up from the place.** -/
theorem ancestors_path (h : ∀ name ∈ names, IsName name) :
    ancestors (Place.path names) = names.inits.reverse.map Place.path := by
  have hup : (above names.reverse).map (fun directory => uncut .root directory.reverse) =
      names.reverse.tails.tail.map fun directory => Place.path directory.reverse := by
    rw [above_eq_tails]
    · rfl
    · intro name hname
      exact isVoid_of_isName (h name (List.mem_reverse.1 hname))
  -- the path itself belongs to the longest of the tails
  have hinits : names.inits.reverse.map Place.path =
      Place.path names :: names.reverse.tails.tail.map fun directory => Place.path directory.reverse := by
    have htails : names.reverse.tails = names.reverse :: names.reverse.tails.tail := by
      cases names.reverse <;> rfl
    have hreverse : names.inits.reverse = names.reverse.tails.map List.reverse := by
      rw [List.tails_reverse, List.map_reverse, List.map_map]
      simp
    rw [hreverse, List.map_map, htails, List.map_cons, List.tail_cons, Function.comp_apply,
      List.reverse_reverse]
    rfl
  have hcut : ∃ body, cut (Place.path names) = (.root, body) ∧
      above body.reverse = above names.reverse := by
    unfold cut
    rw [pieces_path h]
    cases names with
    | nil => exact ⟨[""], rfl, rfl⟩
    | cons name rest => exact ⟨name :: rest, rfl, rfl⟩
  obtain ⟨body, hcut, habove⟩ := hcut
  rw [ancestors, hcut, hinits]
  simp [habove, hup]

end Path

namespace FileSystem

variable {fs : FileSystem} {place p : Place} {path name : String} {names body : List String}
  {content : Content}

/-! ## Places with only directories on the way -/

/-- There are only directories on the way to a place, and one at it. -/
def Standing (fs : FileSystem) (place : Place) : Prop := ∀ p, p <+: place → fs.isDirectoryAt p = true

instance : Decidable (fs.Standing place) :=
  decidable_of_iff (∀ p ∈ place.inits, fs.isDirectoryAt p = true) (by simp [Standing, List.mem_inits])

theorem Standing.above (h : fs.Standing place) (hp : p <+: place) : fs.Standing p :=
  fun q hq => h q (hq.trans hp)

theorem Standing.isDirectoryAt (h : fs.Standing place) : fs.isDirectoryAt place = true :=
  h place (List.prefix_refl place)

theorem Standing.entry? (h : fs.Standing place) : fs.entry? place = some .directory :=
  of_decide_eq_true h.isDirectoryAt

theorem standing_of_dropLast (h : fs.Standing place.dropLast) (hdir : fs.isDirectoryAt place = true) :
    fs.Standing place := by
  intro p hp
  rcases List.eq_nil_or_concat' place with rfl | ⟨front, last, rfl⟩
  · rw [List.prefix_nil.1 hp]
    rfl
  · rw [List.dropLast_concat] at h
    rcases List.prefix_concat_iff.1 hp with rfl | hp
    · exact hdir
    · exact h p hp

/-- Whatever a path leads to from where directories stand, directories stand on the way to it. -/
theorem standing_of_walk (h : fs.Standing place.dropLast) (hp : fs.walk place names = some p) :
    fs.Standing p.dropLast := by
  induction names generalizing place with
  | nil =>
    unfold walk at hp
    split at hp
    · rwa [← Option.some.inj hp]
    · cases hp
  | cons piece names ih =>
    unfold walk at hp
    split at hp
    · rename_i hdir
      have hplace := standing_of_dropLast h hdir
      -- a piece leads nowhere else, to the directory above, or to a name below
      split at hp
      · exact ih h hp
      · exact ih (hplace.above ((List.dropLast_prefix _).trans (List.dropLast_prefix _))) hp
      · refine ih ?_ hp
        rwa [List.dropLast_concat]
      · cases hp
    · cases hp

/-- A path leads to something, if it leads anywhere. -/
theorem isSome_of_walk (hp : fs.walk place names = some p) : (fs.entry? p).isSome = true := by
  induction names generalizing place with
  | nil =>
    unfold walk at hp
    split at hp
    · rename_i hsome
      rwa [← Option.some.inj hp]
    · cases hp
  | cons piece names ih =>
    unfold walk at hp
    split at hp
    · split at hp
      · exact ih hp
      · exact ih hp
      · exact ih hp
      · cases hp
    · cases hp

theorem walk_nil_of_entry? (h : (fs.entry? place).isSome = true) : fs.walk place [] = some place := by
  rw [walk, if_pos h]

theorem walk_standing (h : fs.Standing place) : fs.walk place [] = some place :=
  walk_nil_of_entry? (by rw [h.entry?]; rfl)

/-- A name is looked up where it is followed. -/
theorem walk_name_of_standing (h : fs.Standing place) (hname : Path.IsName name) :
    (fs.walk place [name]).bind fs.entry? = fs.entry? (place ++ [name]) := by
  rw [walk_name hname, h.isDirectoryAt, if_pos rfl, walk]
  cases hentry : fs.entry? (place ++ [name]) with
  | none => rfl
  | some entry => simp [hentry]

/-- Names lead from the root to where they stand. -/
theorem walk_names (h : ∀ name ∈ place, Path.IsName name) (hplace : fs.Standing place) :
    fs.walk [] place = some place := by
  -- from the end: the last name is looked up where the others lead
  induction place using List.reverseRecOn with
  | nil => exact walk_standing hplace
  | append_singleton front last ih =>
    have hfront : fs.Standing front := hplace.above (List.prefix_append _ _)
    have hnames : ∀ name ∈ front, Path.IsName name :=
      fun name hname => h name (List.mem_append_left _ hname)
    have hlast : Path.IsName last := h last (by simp)
    rw [walk_append, ih hnames hfront, Option.bind_some, walk_name hlast, hfront.isDirectoryAt,
      if_pos rfl, walk_standing hplace]

/-- The path of a place leads where its names lead. -/
theorem resolve?_path (h : ∀ name ∈ place, Path.IsName name) (hplace : fs.Standing place) :
    fs.resolve? (Place.path place) = some place := by
  have hne : Place.path place ≠ "" := by simp [Place.path]
  have hroot : ∀ names, fs.walk [] ("" :: names) = fs.walk [] names := fun _ => rfl
  rw [resolve?_of_ne_empty hne, Path.pieces_path h, Place.path, Path.isAbsolute_root, if_pos rfl,
    hroot]
  split
  · rename_i hnil
    rw [hnil]
    rfl
  · exact walk_names h hplace

/-- **A name below the path of a directory is looked up in that directory.** -/
theorem find?_join_path (h : ∀ name ∈ place, Path.IsName name) (hplace : fs.Standing place)
    (hname : Path.IsName name) :
    fs.find? (Path.join (Place.path place) name) = fs.entry? (place ++ [name]) := by
  have hne : Place.path place ≠ "" := by simp [Place.path]
  rw [find?, resolve?_join hne hname, resolve?_path h hplace, Option.bind_some,
    walk_name_of_standing hplace hname]

/-- A bare name is looked up in the current directory. -/
theorem find?_name (hcurrent : fs.Standing fs.current) (hname : Path.IsName name) :
    fs.find? name = fs.entry? (fs.current ++ [name]) := by
  have hpieces : Path.pieces name = [name] := by
    have := Path.pieces_joinStrings (List.cons_ne_nil name []) (by simpa using hname.slashless)
    simpa [Text.joinStrings, Text.join] using this
  rw [find?, resolve?_of_ne_empty hname.ne_empty, hname.not_isAbsolute, hpieces,
    if_neg Bool.false_ne_true, walk_name_of_standing hcurrent hname]

end FileSystem

/-! ## The directory of a file -/

namespace Path

variable {path piece last : String} {body front : List String} {start : Start}

/-- What stands in front of the pieces that follow a beginning. -/
def Start.lead : Start → List String
  | root => [""]
  | here => ["."]
  | name => []

theorem isAbsolute_iff : isAbsolute path = true ↔ ∃ piece rest, pieces path = "" :: piece :: rest := by
  constructor
  · intro h
    obtain ⟨cs, hcs⟩ : ∃ cs, path.toList = '/' :: cs := by
      rw [isAbsolute, decide_eq_true_eq, List.head?_eq_some_iff] at h
      exact h
    have hpath : path = "/" ++ String.ofList cs := by
      rw [← String.toList_inj, hcs, String.toList_append, String.toList_ofList]
      simp
    have hne : pieces (String.ofList cs) ≠ [] := by simp [pieces, Text.splitString, Text.split_ne_nil]
    obtain ⟨piece, rest, hrest⟩ := List.exists_cons_of_ne_nil hne
    exact ⟨piece, rest, by rw [hpath, pieces_root, hrest]⟩
  · rintro ⟨piece, rest, h⟩
    rw [← joinStrings_pieces path, h, isAbsolute, Text.joinStrings, String.toList_ofList]
    rfl

theorem cut_root {rest : List String} (h : pieces path = "" :: piece :: rest) :
    cut path = (.root, piece :: rest) := by
  rw [cut, h]
  rfl

theorem cut_here {rest : List String} (h : pieces path = "." :: rest) : cut path = (.here, rest) := by
  rw [cut, h]
  rfl

theorem cut_name {rest : List String} (h : pieces path = piece :: rest) (hroot : piece ≠ "")
    (hhere : piece ≠ ".") : cut path = (.name, piece :: rest) := by
  rw [cut, h]
  split
  · rename_i heq
    exact absurd (List.cons.inj heq).1 hroot
  · rename_i heq
    exact absurd (List.cons.inj heq).1 hhere
  · rename_i heq
    exact absurd (List.cons.inj heq).1 hroot
  · rfl

/-- The pieces of a path that ends with a name: its beginning, and what leads to its directory. -/
theorem exists_cut (h : pieces path = front ++ [last]) (hlast : IsName last) :
    ∃ start body, front = Start.lead start ++ body ∧ (isAbsolute path = true ↔ start = .root) ∧
      (start = .name → ∀ piece ∈ body.head?, piece ≠ "" ∧ piece ≠ ".") ∧
      parent? path = some (uncut start (body.rdropWhile isVoid)) := by
  have hparent : ∀ start body, cut path = (start, body ++ [last]) →
      parent? path = some (uncut start (body.rdropWhile isVoid)) := by
    intro start body hcut
    rw [parent?, ancestors, hcut]
    simp [above, isVoid_of_isName hlast, List.rdropWhile]
  have habs : isAbsolute path = true ↔ _ := isAbsolute_iff
  rw [h] at habs
  -- the first piece decides how the path begins
  cases front with
  | nil =>
    refine ⟨.name, [], rfl, ?_, by simp, hparent .name [] (cut_name h hlast.ne_empty hlast.ne_here)⟩
    rw [habs]
    simp
  | cons first body =>
    obtain ⟨next, rest, hnext⟩ : ∃ next rest, body ++ [last] = next :: rest :=
      List.exists_cons_of_ne_nil (by simp)
    rw [List.cons_append, hnext] at habs
    rw [List.cons_append] at h
    by_cases hroot : first = ""
    · subst hroot
      refine ⟨.root, body, rfl, ?_, by simp, hparent .root body ?_⟩
      · rw [habs]
        simp
      · rw [hnext] at h ⊢
        exact cut_root h
    · by_cases hhere : first = "."
      · subst hhere
        refine ⟨.here, body, rfl, ?_, by simp, hparent .here body (cut_here h)⟩
        rw [habs]
        simp
      · refine ⟨.name, first :: body, rfl, ?_, by simp [hroot, hhere],
          hparent .name _ (cut_name h hroot hhere)⟩
        rw [habs]
        simp [hroot]

theorem eq_of_component? {text name : String} (h : component? text = some (.name name)) :
    name = text := by
  unfold component? at h
  split at h <;> cases h
  rfl

theorem isVoid_iff : isVoid piece = true ↔ piece = "" ∨ piece = "." := by
  unfold isVoid component?
  split <;> simp_all

/-- What is left without the last pieces that name nothing still begins with a name. -/
theorem head?_rdropWhile (hbody : body ≠ []) (h : ∀ piece ∈ body.head?, piece ≠ "" ∧ piece ≠ ".") :
    body.rdropWhile isVoid ≠ [] ∧ ∀ piece ∈ (body.rdropWhile isVoid).head?, piece ≠ "" := by
  obtain ⟨first, rest, rfl⟩ := List.exists_cons_of_ne_nil hbody
  have hfirst := h first rfl
  -- the first piece names something, so not all are left out
  have hne : (first :: rest).rdropWhile isVoid ≠ [] := by
    rw [Ne, List.rdropWhile_eq_nil_iff]
    intro hall
    have := isVoid_iff.1 (hall first List.mem_cons_self)
    tauto
  obtain ⟨head, tail, hkept⟩ := List.exists_cons_of_ne_nil hne
  obtain ⟨dropped, hdropped⟩ := List.rdropWhile_prefix isVoid (first :: rest)
  rw [hkept, List.cons_append] at hdropped
  rw [hkept]
  refine ⟨List.cons_ne_nil _ _, fun piece hpiece => ?_⟩
  obtain rfl : head = piece := Option.some.inj hpiece
  rw [(List.cons.inj hdropped).1]
  exact hfirst.1

/-- A path that is put together has the pieces that it was put together from. -/
theorem pieces_uncut (hslash : ∀ piece ∈ body, '/' ∉ piece.toList) (hbody : body ≠ []) :
    pieces (uncut start body) = start.lead ++ body := by
  cases start with
  | root =>
    rw [uncut, pieces_root, pieces_joinStrings hbody hslash]
    rfl
  | here =>
    rw [uncut, pieces_joinStrings (List.cons_ne_nil _ _)]
    · rfl
    · intro piece hpiece
      rcases List.mem_cons.1 hpiece with rfl | hpiece
      · decide
      · exact hslash piece hpiece
  | name =>
    rw [uncut, pieces_joinStrings hbody hslash]
    rfl

theorem isAbsolute_uncut (hslash : ∀ piece ∈ body, '/' ∉ piece.toList) (hbody : body ≠ [])
    (hname : start = .name → ∀ piece ∈ body.head?, piece ≠ "") :
    isAbsolute (uncut start body) = true ↔ start = .root := by
  rw [isAbsolute_iff, pieces_uncut hslash hbody]
  obtain ⟨first, rest, rfl⟩ := List.exists_cons_of_ne_nil hbody
  cases start with
  | root => simp [Start.lead]
  | here => simp [Start.lead]
  | name =>
    have hfirst := hname rfl first rfl
    simp [Start.lead, hfirst]

end Path

namespace FileSystem

variable {fs : FileSystem} {place p : Place} {path last : String} {names body : List String}
  {start : Path.Start} {content : Content}

/-- Pieces that name nothing lead nowhere else. -/
theorem walk_void (h : ∀ piece ∈ names, Path.isVoid piece = true) (hp : fs.walk place names = some p) :
    p = place := by
  induction names with
  | nil =>
    unfold walk at hp
    split at hp
    · exact (Option.some.inj hp).symm
    · cases hp
  | cons piece names ih =>
    have hpiece : Path.component? piece = none := Option.isNone_iff_eq_none.1 (h piece List.mem_cons_self)
    rw [walk, hpiece] at hp
    split at hp
    · exact ih (fun n hn => h n (List.mem_cons_of_mem _ hn)) hp
    · cases hp

/-- Pieces that name nothing may be left out at the end. -/
theorem walk_rdropWhile (hp : fs.walk place names = some p) :
    fs.walk place (names.rdropWhile Path.isVoid) = some p := by
  have hsplit : names = names.rdropWhile Path.isVoid ++ names.rtakeWhile Path.isVoid := by
    rw [List.rdropWhile, List.rtakeWhile, ← List.reverse_append, List.takeWhile_append_dropWhile,
      List.reverse_reverse]
  rw [hsplit, walk_append] at hp
  obtain ⟨q, hq, hp⟩ := Option.bind_eq_some_iff.1 hp
  rw [walk_void (fun piece hpiece => List.mem_rtakeWhile_imp hpiece) hp]
  exact hq

/-- Where a path with some beginning leads on from. -/
def origin (fs : FileSystem) (start : Path.Start) : Place :=
  if start = .root then [] else fs.current

/-- A path that is put together leads where its pieces lead. -/
theorem resolve?_uncut (hslash : ∀ piece ∈ body, '/' ∉ piece.toList)
    (hname : start = .name → body ≠ [] ∧ ∀ piece ∈ body.head?, piece ≠ "") :
    fs.resolve? (Path.uncut start body) = fs.walk (fs.origin start) (start.lead ++ body) := by
  by_cases hbody : body = []
  · subst hbody
    cases start with
    | root => rfl
    | here => rfl
    | name => exact absurd rfl (hname rfl).1
  · have hpieces : Path.pieces (Path.uncut start body) = start.lead ++ body :=
      Path.pieces_uncut hslash hbody
    have habs := Path.isAbsolute_uncut hslash hbody fun hs => (hname hs).2
    have hne : Path.uncut start body ≠ "" := by
      intro hempty
      have hnil : Path.pieces (Path.uncut start body) = [""] := by rw [hempty]; rfl
      obtain ⟨first, rest, rfl⟩ := List.exists_cons_of_ne_nil hbody
      rw [hpieces] at hnil
      cases start with
      | root => simp [Path.Start.lead] at hnil
      | here => simp [Path.Start.lead] at hnil
      | name => exact (hname rfl).2 first rfl (List.cons.inj hnil).1
    rw [resolve?_of_ne_empty hne, hpieces, origin]
    simp only [habs]

/-- The path that is told for a directory leads where all pieces before the name lead. -/
theorem resolve?_directory (hslash : ∀ piece ∈ body, '/' ∉ piece.toList)
    (hbody : start = .name → body ≠ [] ∧ ∀ piece ∈ body.head?, piece ≠ "" ∧ piece ≠ ".")
    (hp : fs.walk (fs.origin start) (start.lead ++ body) = some p) :
    fs.resolve? (Path.uncut start (body.rdropWhile Path.isVoid)) = some p := by
  rw [resolve?_uncut]
  · -- the pieces that are left out lead nowhere else
    rw [walk_append] at hp ⊢
    obtain ⟨q, hq, hp⟩ := Option.bind_eq_some_iff.1 hp
    rw [hq, Option.bind_some]
    exact walk_rdropWhile hp
  · intro piece hpiece
    exact hslash piece ((List.rdropWhile_prefix Path.isVoid body).subset hpiece)
  · intro hname
    exact Path.head?_rdropWhile (hbody hname).1 (hbody hname).2

/-- The last piece on the way to a file is its name. -/
theorem isName_of_walk_file (hslash : '/' ∉ last.toList) (hplace : fs.Standing place.dropLast)
    (hp : fs.walk place [last] = some p) (hfile : fs.entry? p = some (.file content)) :
    Path.IsName last ∧ fs.Standing place ∧ p = place ++ [last] := by
  -- a directory is no file, so the last piece is neither void nor the way up
  have hnot : ∀ q, fs.Standing q → fs.walk q [] ≠ some p := by
    intro q hq hw
    rw [walk_standing hq] at hw
    obtain rfl := Option.some.inj hw
    have hdir := hq.entry?
    rw [hfile] at hdir
    cases hdir
  rw [walk] at hp
  split at hp
  · rename_i hdir
    have hstanding := standing_of_dropLast hplace hdir
    split at hp
    · exact absurd hp (hnot place hstanding)
    · exact absurd hp (hnot _ (hstanding.above (List.dropLast_prefix _)))
    · rename_i name hname
      obtain rfl : name = last := Path.eq_of_component? hname
      rw [walk] at hp
      split at hp
      · exact ⟨⟨hname, hslash⟩, hstanding, (Option.some.inj hp).symm⟩
      · cases hp
    · cases hp
  · cases hp

/-- What a path leads to stands in a directory, and so do all directories above it. -/
theorem standing_of_resolve? (hcurrent : fs.Standing fs.current) (hp : fs.resolve? path = some p) :
    fs.Standing p.dropLast ∧ (fs.entry? p).isSome = true := by
  have hne : path ≠ "" := by
    rintro rfl
    cases hp
  rw [resolve?_of_ne_empty hne] at hp
  refine ⟨standing_of_walk ?_ hp, isSome_of_walk hp⟩
  split
  · exact hcurrent.above List.nil_prefix
  · exact hcurrent.above (List.dropLast_prefix _)

/-- **The directory of a file, for each spelling of its path.** A path with a slash tells the
directory, but a bare name is one in the current directory, and its directory is the empty path. -/
theorem parent?_of_file (hcurrent : fs.Standing fs.current) (hp : fs.resolve? path = some p)
    (hfile : fs.entry? p = some (.file content)) :
    ∃ place last, p = place ++ [last] ∧ Path.IsName last ∧ fs.Standing place ∧
      (('/' ∈ path.toList ∧
          ∃ directory, Path.parent? path = some directory ∧ fs.resolve? directory = some place) ∨
        ('/' ∉ path.toList ∧ path = last ∧ place = fs.current ∧ Path.parent? path = some "")) := by
  have hne : path ≠ "" := by
    rintro rfl
    cases hp
  have hpieces : Path.pieces path ≠ [] := by simp [Path.pieces, Text.splitString, Text.split_ne_nil]
  obtain ⟨front, last, hfront⟩ := (List.eq_nil_or_concat' (Path.pieces path)).resolve_left hpieces
  have hslash : ∀ piece ∈ front ++ [last], '/' ∉ piece.toList :=
    fun piece hpiece => Path.slashless_of_mem_pieces (hfront ▸ hpiece)
  rw [resolve?_of_ne_empty hne, hfront, walk_append] at hp
  obtain ⟨place, hplace, hp⟩ := Option.bind_eq_some_iff.1 hp
  -- the way to the file begins at the root or at the current directory
  have horigin : fs.Standing (if Path.isAbsolute path then [] else fs.current) := by
    split
    · exact hcurrent.above List.nil_prefix
    · exact hcurrent
  have hdrop := standing_of_walk (horigin.above (List.dropLast_prefix _)) hplace
  obtain ⟨hlast, hstanding, rfl⟩ := isName_of_walk_file (hslash last (by simp)) hdrop hp hfile
  refine ⟨place, last, rfl, hlast, hstanding, ?_⟩
  obtain ⟨start, body, rfl, habs, hbody, hparent⟩ := Path.exists_cut hfront hlast
  have horig : fs.origin start = if Path.isAbsolute path then [] else fs.current := by
    simp only [origin, habs]
  rw [← horig] at hplace
  by_cases hbare : start.lead ++ body = []
  · right
    obtain ⟨hlead, rfl⟩ := List.append_eq_nil_iff.1 hbare
    obtain rfl : start = .name := by
      cases start with
      | name => rfl
      | root | here => cases hlead
    rw [hbare, List.nil_append] at hfront
    have hpath : path = last := by
      rw [← Path.joinStrings_pieces path, hfront]
      simp [Text.joinStrings, Text.join]
    refine ⟨hpath ▸ hlast.slashless, hpath, ?_, hparent⟩
    have hhere : fs.walk fs.current [] = some place := hplace
    rw [walk_standing hcurrent] at hhere
    exact (Option.some.inj hhere).symm
  · left
    refine ⟨?_, _, hparent, resolve?_directory ?_ ?_ hplace⟩
    · -- without a slash the name would be the only piece
      by_contra hnone
      rw [Path.pieces_of_slashless hnone] at hfront
      rcases List.append_eq_singleton_iff.1 hfront.symm with ⟨hnil, -⟩ | ⟨-, hnil⟩
      · exact hbare hnil
      · exact List.cons_ne_nil _ _ hnil
    · exact fun piece hpiece => hslash piece (by simp [hpiece])
    · rintro rfl
      exact ⟨hbare, hbody rfl⟩

end FileSystem

end LogStyle
