import LogStyle.Proofs.Declared

/-!
# The skeleton of a syntax tree

The literals among the arguments of calls declare nothing, and neither does the place of a node. A
tree without them has the same declarations.

* `Tree.raw?`: the string literal that a node is, parentheses aside.
* `Tree.skeleton`: a tree without places and without the literals among arguments.
* `Declarations.typeOf_skeleton`: a node denotes the type that its skeleton denotes.
* `Declarations.ofTrees_skeleton`: **a file declares what its skeleton declares.**
-/

namespace LogStyle.Go

namespace Tree

mutual

/-- The string literal that a node is, parentheses aside. -/
def raw? : Tree → Option String
  | .node _ kind _ text children =>
    match kind with
    | .interpretedStringLiteral | .rawStringLiteral => some text
    | .parenthesizedExpression => rawOfFirst? children
    | _ => none

def rawOfFirst? : List Tree → Option String
  | [] => none
  | t :: rest => if t.isNamed then raw? t else rawOfFirst? rest

end

/-- A string literal without a role, parentheses aside. -/
def isPlainText (t : Tree) : Bool := t.field.isNone && t.raw?.isSome

mutual

/-- A tree without places and without the literals among arguments. -/
def skeleton : Tree → Tree
  | .node field kind _ text children =>
    .node field kind {} text (skeletons (kind = .argumentList) children)

/-- The skeletons of some nodes, which may be arguments. -/
def skeletons (arguments : Bool) : List Tree → List Tree
  | [] => []
  | t :: rest =>
    if arguments && t.isPlainText then skeletons arguments rest
    else t.skeleton :: skeletons arguments rest

end

variable {t : Tree} {ts : List Tree} {arguments : Bool} {p : Tree → Bool}

@[simp] theorem field_skeleton (t : Tree) : t.skeleton.field = t.field := by
  cases t
  rw [skeleton, field, field]

@[simp] theorem kind_skeleton (t : Tree) : t.skeleton.kind = t.kind := by
  cases t
  rw [skeleton, kind, kind]

@[simp] theorem text_skeleton (t : Tree) : t.skeleton.text = t.text := by
  cases t
  rw [skeleton, text, text]

@[simp] theorem isNamed_skeleton (t : Tree) : t.skeleton.isNamed = t.isNamed := by
  simp [isNamed]

/-- Trees with one skeleton are of one kind. -/
theorem kind_eq {t t' : Tree} (h : t'.skeleton = t.skeleton) : t'.kind = t.kind := by
  rw [← kind_skeleton, h, kind_skeleton]

theorem children_skeleton (t : Tree) :
    t.skeleton.children = skeletons (t.kind = .argumentList) t.children := by
  cases t
  rw [skeleton, children, children, kind]

theorem skeletons_false (ts : List Tree) : skeletons false ts = ts.map skeleton := by
  induction ts with
  | nil => simp [skeletons]
  | cons t ts ih => simp [skeletons, ih]

/-- A string literal has the kind of one, or of parentheses. -/
theorem kind_of_raw? (h : t.raw?.isSome = true) : t.kind = .interpretedStringLiteral ∨
    t.kind = .rawStringLiteral ∨ t.kind = .parenthesizedExpression := by
  obtain ⟨field, kind, span, text, children⟩ := t
  unfold raw? at h
  split at h
  · exact .inl rfl
  · exact .inr (.inl rfl)
  · exact .inr (.inr rfl)
  · cases h

theorem filter_skeletons (h : ∀ t, p t.skeleton = p t)
    (htext : ∀ t, t.isPlainText = true → p t = false) :
    (skeletons arguments ts).filter p = (ts.filter p).map skeleton := by
  induction ts with
  | nil => simp [skeletons]
  | cons t ts ih =>
    rw [skeletons]
    split
    · rename_i hplain
      -- a literal is left out of the skeleton, and the condition does not hold of it
      rw [ih, List.filter_cons_of_neg]
      simp [htext t (by simpa using (Bool.and_eq_true_iff.1 hplain).2)]
    · rw [List.filter_cons, List.filter_cons, h, ih]
      split <;> simp

theorem parts_skeleton (h : t.kind ≠ .argumentList) : t.skeleton.parts = t.parts.map skeleton := by
  rw [parts, children_skeleton, decide_eq_false h, skeletons_false, List.filter_map]
  simp [parts, Function.comp_def]

/-- A string literal without a role is one of the nodes that may get lost. -/
theorem isLoose_of_isPlainText (h : t.isPlainText = true) : t.isLoose = true := by
  rw [isPlainText, Bool.and_eq_true] at h
  rcases kind_of_raw? h.2 with hk | hk | hk <;> simp [isLoose, h.1, hk]

theorem retains_skeleton : Retains skeleton where
  field := field_skeleton
  kind := kind_skeleton
  text t _ := text_skeleton t
  parts _ h := parts_skeleton h
  filter t p hp hloose := by
    rw [children_skeleton]
    exact filter_skeletons hp fun u hu => hloose u (isLoose_of_isPlainText hu)

@[simp] theorem child?_skeleton (t : Tree) (role : Field) :
    t.skeleton.child? role = (t.child? role).map skeleton :=
  retains_skeleton.child? t role

@[simp] theorem childTexts_skeleton (t : Tree) (role : Field) :
    t.skeleton.childTexts role = t.childTexts role := by
  rw [childTexts, children_skeleton, filter_skeletons (fun t => by simp), List.map_map]
  · simp [childTexts, Function.comp_def]
  · exact fun u hu => not_role_of_isLoose (isLoose_of_isPlainText hu) role

@[simp] theorem hasToken_skeleton (t : Tree) (text : String) :
    t.skeleton.hasToken text = t.hasToken text :=
  retains_skeleton.hasToken t text

end Tree

namespace Declarations

/-- A node denotes the type that its skeleton denotes. -/
theorem typeOf_skeleton (d : Declarations) (t : Tree) : d.typeOf t.skeleton = d.typeOf t :=
  Tree.retains_skeleton.typeOf d t

/-- **A file declares what its skeleton declares.** -/
theorem ofTrees_skeleton (ts : List Tree) : ofTrees (ts.map Tree.skeleton) = ofTrees ts := by
  have hchanged : Tree.changed Tree.skeleton Tree.skeleton = Tree.skeleton := by
    funext t
    exact ite_self _
  rw [← Tree.retains_skeleton.ofTrees Tree.retains_skeleton Tree.text_skeleton ts, hchanged]

end Declarations

end LogStyle.Go
