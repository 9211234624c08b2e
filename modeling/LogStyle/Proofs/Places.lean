import LogStyle.Discovery

/-!
# The places that paths lead to

A path to a file below a directory is made of the path of the directory and the names on the way.
It leads to the place that these names lead to.

* `Text.split_join`: pieces without the mark are what their text is cut into.
* `Path.IsName`: the texts that can name an entry of a directory.
* `Path.components_joinStrings`: the components of names between slashes are these names.
* `FileSystem.walk_append`: a path is followed piece by piece.
* `FileSystem.resolve?_pathBelow`: **names below a path lead on from where the path leads to.**
-/

namespace LogStyle

namespace Text

variable {mark : Char}

theorem split_append_cons (a b : List Char) :
    split mark (a ++ mark :: b) = split mark a ++ split mark b := by
  induction a with
  | nil =>
    cases h : split mark b with
    | nil => exact absurd h (split_ne_nil mark b)
    | cons piece pieces => simp [split, h]
  | cons c a ih =>
    cases h : split mark a with
    | nil => exact absurd h (split_ne_nil mark a)
    | cons piece pieces =>
      rw [h] at ih
      by_cases hc : c = mark <;> simp [split, ih, h, hc]

theorem split_of_not_mem {cs : List Char} (h : mark ∉ cs) : split mark cs = [cs] := by
  induction cs with
  | nil => rfl
  | cons c cs ih =>
    have hc : c ≠ mark := fun he => h (he ▸ List.mem_cons_self)
    rw [split, ih fun hm => h (List.mem_cons_of_mem c hm)]
    simp [hc]

/-- **Pieces without the mark are what their text is cut into.** -/
theorem split_join {pieces : List (List Char)} (hne : pieces ≠ [])
    (h : ∀ piece ∈ pieces, mark ∉ piece) : split mark (join mark pieces) = pieces := by
  induction pieces with
  | nil => exact absurd rfl hne
  | cons piece pieces ih =>
    have hpiece := split_of_not_mem (h piece List.mem_cons_self)
    cases pieces with
    | nil => exact hpiece
    | cons next others =>
      rw [join, split_append_cons, hpiece, ih (by simp) fun p hp => h p (List.mem_cons_of_mem _ hp)]
      · rfl
      · simp

end Text

namespace Path

/-- The texts that can name an entry of a directory. -/
structure IsName (text : String) : Prop where
  component : component? text = some (.name text)
  slashless : '/' ∉ text.toList

instance {text : String} : Decidable (IsName text) :=
  decidable_of_iff (component? text = some (.name text) ∧ '/' ∉ text.toList)
    ⟨fun ⟨hcomponent, hslashless⟩ => ⟨hcomponent, hslashless⟩, fun h => ⟨h.component, h.slashless⟩⟩

theorem IsName.ne_empty {text : String} (h : IsName text) : text ≠ "" := by
  rintro rfl
  have := h.component
  simp [component?] at this

theorem IsName.ne_here {text : String} (h : IsName text) : text ≠ "." := by
  rintro rfl
  have := h.component
  simp [component?] at this

theorem IsName.not_isAbsolute {text : String} (h : IsName text) : isAbsolute text = false := by
  simp only [isAbsolute, decide_eq_false_iff_not]
  intro hhead
  exact h.slashless (List.mem_of_mem_head? hhead)

theorem pieces_joinStrings {names : List String} (hne : names ≠ [])
    (h : ∀ name ∈ names, '/' ∉ name.toList) : pieces (Text.joinStrings '/' names) = names := by
  have hsplit : Text.split '/' (Text.join '/' (names.map String.toList)) = names.map String.toList := by
    apply Text.split_join
    · simpa using hne
    · intro piece hpiece
      obtain ⟨name, hname, rfl⟩ := List.mem_map.1 hpiece
      exact h name hname
  rw [pieces, Text.splitString, Text.joinStrings, String.toList_ofList, hsplit, List.map_map]
  exact List.map_id'' (fun name => String.ofList_toList) names

theorem filterMap_component? {names : List String} (h : ∀ name ∈ names, IsName name) :
    names.filterMap component? = names.map .name := by
  induction names with
  | nil => rfl
  | cons name names ih =>
    rw [List.filterMap_cons, (h name List.mem_cons_self).component,
      ih fun n hn => h n (List.mem_cons_of_mem _ hn)]
    rfl

/-- The pieces of a name below a path: a slash at the end of the path is not doubled. -/
theorem pieces_join {path name : String} (hpath : path ≠ "") (hname : IsName name) :
    ∃ front, pieces (join path name) = front ++ [name] ∧
      (pieces path = front ∨ pieces path = front ++ [""]) := by
  have hsplit : Text.split '/' name.toList = [name.toList] := Text.split_of_not_mem hname.slashless
  rw [join, hname.not_isAbsolute, if_neg Bool.false_ne_true]
  by_cases hlast : path.toList.getLast? = some '/'
  · obtain ⟨front, hfront⟩ := List.getLast?_eq_some_iff.1 hlast
    refine ⟨pieces (String.ofList front), ?_, .inr ?_⟩
    · rw [if_pos (by simp [hlast])]
      simp [pieces, Text.splitString, hfront, Text.split_append_cons, hsplit]
    · simp [pieces, Text.splitString, hfront, Text.split_append_cons, Text.split]
  · refine ⟨pieces path, ?_, .inl rfl⟩
    rw [if_neg (by simp [hlast, hpath])]
    simp [pieces, Text.splitString, Text.split_append_cons, hsplit]

theorem join_eq_append (path : String) {name : String} (hname : IsName name) :
    ∃ s, join path name = path ++ s := by
  rw [join, hname.not_isAbsolute, if_neg Bool.false_ne_true]
  split
  · exact ⟨name, rfl⟩
  · exact ⟨"/" ++ name, String.append_assoc ..⟩

theorem join_ne_empty {path name : String} (hpath : path ≠ "") (hname : IsName name) :
    join path name ≠ "" := by
  obtain ⟨s, hs⟩ := join_eq_append path hname
  simp [hs, hpath]

theorem isAbsolute_join {path name : String} (hpath : path ≠ "") (hname : IsName name) :
    isAbsolute (join path name) = isAbsolute path := by
  obtain ⟨s, hs⟩ := join_eq_append path hname
  have hcs : path.toList ≠ [] := by
    rwa [Ne, String.toList_eq_nil_iff]
  simp [hs, isAbsolute, List.head?_append, List.head?_eq_some_head hcs]

theorem fileName?_join {path name : String} (hpath : path ≠ "") (hname : IsName name) :
    fileName? (join path name) = some name := by
  obtain ⟨front, hpieces, -⟩ := pieces_join hpath hname
  have hparts : (pieces (join path name)).filterMap component? =
      front.filterMap component? ++ [.name name] := by
    simp [hpieces, List.filterMap_append, hname.component]
  have hlast : (components (join path name)).getLast? = some (.name name) := by
    unfold components
    rw [hparts]
    split
    · simp [List.getLast?_cons]
    · split <;> simp [List.getLast?_cons]
  rw [fileName?, hlast]

/-- **The components of names between slashes are these names.** -/
theorem components_joinStrings {names : List String} (h : ∀ name ∈ names, IsName name) :
    components (Text.joinStrings '/' names) = names.map .name := by
  cases names with
  | nil => rfl
  | cons name rest =>
    have hname := h name List.mem_cons_self
    have hpieces := pieces_joinStrings (List.cons_ne_nil name rest) fun n hn => (h n hn).slashless
    -- neither a slash nor a dot stands in front
    have habs : isAbsolute (Text.joinStrings '/' (name :: rest)) = false := by
      obtain ⟨c, cs, hcs⟩ : ∃ c cs, name.toList = c :: cs := by
        apply List.exists_cons_of_ne_nil
        rw [Ne, String.toList_eq_nil_iff]
        exact hname.ne_empty
      have hc : c ≠ '/' := fun he => hname.slashless (by rw [hcs, he]; exact List.mem_cons_self)
      cases rest <;> simp [isAbsolute, Text.joinStrings, Text.join, hcs, hc]
    have hhead : (pieces (Text.joinStrings '/' (name :: rest))).head? ≠ some "." := by
      rw [hpieces]
      simpa using hname.ne_here
    unfold components
    rw [habs, if_neg Bool.false_ne_true, if_neg hhead, hpieces, filterMap_component? h]

end Path

namespace FileSystem

variable {fs : FileSystem} {place p : Place} {path : String} {name : String} {names : List String}

/-- **A path is followed piece by piece.** -/
theorem walk_append (xs ys : List String) :
    fs.walk place (xs ++ ys) = (fs.walk place xs).bind fun p => fs.walk p ys := by
  induction xs generalizing place with
  | nil =>
    by_cases h : (fs.entry? place).isSome
    · simp [walk, h]
    · have hdir : fs.isDirectoryAt place = false := by
        rw [isDirectoryAt, decide_eq_false_iff_not]
        intro he
        exact h (by rw [he]; rfl)
      cases ys <;> simp [walk, h, hdir]
  | cons x xs ih =>
    simp only [List.cons_append, walk]
    split
    · split <;> simp only [ih, Option.bind_none]
    · rfl

/-- Names lead to their places. -/
theorem eq_of_walk_names (h : ∀ name ∈ names, Path.IsName name) (hp : fs.walk place names = some p) :
    p = place ++ names := by
  induction names generalizing place with
  | nil =>
    unfold walk at hp
    split at hp
    · simpa using hp.symm
    · cases hp
  | cons name names ih =>
    rw [walk, (h name List.mem_cons_self).component] at hp
    split at hp
    · rw [ih (fun n hn => h n (List.mem_cons_of_mem _ hn)) hp]
      simp
    · cases hp

theorem walk_name (h : Path.IsName name) : fs.walk place [name] =
    if fs.isDirectoryAt place then fs.walk (place ++ [name]) [] else none := by
  simp only [walk, h.component]

/-- An empty piece leads nowhere else, so that a name may follow it. -/
theorem walk_void_name (h : Path.IsName name) :
    ((fs.walk place [""]).bind fun p => fs.walk p [name]) = fs.walk place [name] := by
  have hvoid : fs.walk place [""] = if fs.isDirectoryAt place then fs.walk place [] else none := rfl
  rw [hvoid, walk_name h]
  split
  · rename_i hdir
    rw [walk, of_decide_eq_true hdir]
    simp [walk_name h, hdir]
  · rfl

theorem resolve?_of_ne_empty (h : path ≠ "") : fs.resolve? path =
    fs.walk (if Path.isAbsolute path then [] else fs.current) (Path.pieces path) := by
  rw [resolve?, if_neg]
  simpa using h

/-- A name below a path leads on from where the path leads to. -/
theorem resolve?_join (hpath : path ≠ "") (hname : Path.IsName name) :
    fs.resolve? (Path.join path name) = (fs.resolve? path).bind fun p => fs.walk p [name] := by
  obtain ⟨front, hpieces, hfront⟩ := Path.pieces_join hpath hname
  rw [resolve?_of_ne_empty (Path.join_ne_empty hpath hname), resolve?_of_ne_empty hpath,
    Path.isAbsolute_join hpath hname, hpieces]
  rcases hfront with h | h
  · rw [h, walk_append]
  · -- the empty piece behind the last slash gives way to the name
    rw [h, walk_append, walk_append, Option.bind_assoc]
    simp only [walk_void_name hname]

/-- **Names below a path lead on from where the path leads to.** -/
theorem resolve?_pathBelow (hpath : path ≠ "") (h : ∀ name ∈ names, Path.IsName name) :
    fs.resolve? (Discovery.pathBelow path names) =
      (fs.resolve? path).bind fun p => fs.walk p names := by
  induction names generalizing path with
  | nil =>
    change fs.resolve? path = (fs.resolve? path).bind fun p => fs.walk p []
    rw [resolve?_of_ne_empty hpath, ← walk_append, List.append_nil]
  | cons name names ih =>
    have hname := h name List.mem_cons_self
    rw [Discovery.pathBelow, List.foldl_cons, ← Discovery.pathBelow,
      ih (Path.join_ne_empty hpath hname) fun n hn => h n (List.mem_cons_of_mem _ hn),
      resolve?_join hpath hname, Option.bind_assoc]
    simp only [← walk_append, List.singleton_append]

theorem fileName?_pathBelow (hpath : path ≠ "") (h : ∀ name ∈ names, Path.IsName name)
    (hlast : names.getLast? = some name) :
    Path.fileName? (Discovery.pathBelow path names) = some name := by
  induction names generalizing path with
  | nil => cases hlast
  | cons first names ih =>
    have hfirst := h first List.mem_cons_self
    rw [Discovery.pathBelow, List.foldl_cons, ← Discovery.pathBelow]
    cases names with
    | nil =>
      obtain rfl : first = name := by simpa using hlast
      exact Path.fileName?_join hpath hfirst
    | cons next rest =>
      exact ih (Path.join_ne_empty hpath hfirst) (fun n hn => h n (List.mem_cons_of_mem _ hn))
        (by simpa [List.getLast?_cons_cons] using hlast)

end FileSystem

end LogStyle
