import LogStyle.Proofs.Descent

/-!
# Nodes in their place

In a well nested tree siblings lie side by side inside of their parent. What is gathered from such a
tree, each piece from one place, lies side by side as well.

* `Tree.Placed`: a node that covers some text, with the nodes below it side by side inside of it.
* `Tree.literals`: the literals that may be messages. Nothing inside a literal is looked at, so that
  none of them lies in another.
* `Tree.spread_literals`: **two of these literals are the same or lie apart.**
-/

namespace LogStyle

/-! ## Places in a text -/

namespace Text

theorem splitBytes?_cut {start stop : Nat} {cs front back : List Char} (hle : start ≤ stop)
    (hstart : splitBytes? start cs = some (front, back)) (hstop : (splitBytes? stop cs).isSome = true) :
    (splitBytes? (stop - start) back).isSome = true := by
  induction cs generalizing start stop front with
  | nil =>
    cases start with
    | zero =>
      obtain ⟨-, rfl⟩ := Prod.mk.inj (Option.some.inj hstart)
      exact hstop
    | succ start => cases hstart
  | cons c cs ih =>
    cases start with
    | zero =>
      rw [splitBytes?] at hstart
      obtain ⟨-, rfl⟩ := Prod.mk.inj (Option.some.inj hstart)
      exact hstop
    | succ start =>
      obtain ⟨stop, rfl⟩ : ∃ n, stop = n + 1 := ⟨stop - 1, by omega⟩
      rw [splitBytes?] at hstart hstop
      simp only [Option.ite_none_right_eq_some, Option.map_eq_some_iff] at hstart
      obtain ⟨hsize, ⟨front', back'⟩, hrest, heq⟩ := hstart
      obtain ⟨-, rfl⟩ := Prod.mk.inj heq
      rw [if_pos (by omega), Option.isSome_map] at hstop
      have hcut := ih (by omega) hrest hstop
      rwa [show stop + 1 - c.utf8Size - (start + 1 - c.utf8Size) = stop + 1 - (start + 1) by omega]
        at hcut

theorem slice?_isSome {start stop : Nat} {cs : List Char} (hle : start ≤ stop)
    (hstart : (splitBytes? start cs).isSome = true) (hstop : (splitBytes? stop cs).isSome = true) :
    (slice? start stop cs).isSome = true := by
  obtain ⟨⟨front, back⟩, hsplit⟩ := Option.isSome_iff_exists.1 hstart
  obtain ⟨⟨piece, rest⟩, hpiece⟩ := Option.isSome_iff_exists.1 (splitBytes?_cut hle hsplit hstop)
  simp [slice?, hle, hsplit, hpiece]

end Text

namespace Span

/-- Spans that have no byte in common. -/
def Apart (s u : Span) : Prop := s.stop.offset ≤ u.start.offset ∨ u.stop.offset ≤ s.start.offset

/-- A span that lies in another one. -/
def Inside (s u : Span) : Prop := u.start.offset ≤ s.start.offset ∧ s.stop.offset ≤ u.stop.offset

instance (s u : Span) : Decidable (Apart s u) := inferInstanceAs (Decidable (_ ∨ _))

instance (s u : Span) : Decidable (Inside s u) := inferInstanceAs (Decidable (_ ∧ _))

theorem Inside.trans {s u v : Span} (h : Inside s u) (h' : Inside u v) : Inside s v := by
  unfold Inside at *
  omega

theorem Apart.mono {s s' u u' : Span} (h : Apart s u) (hs : Inside s' s) (hu : Inside u' u) :
    Apart s' u' := by
  unfold Apart Inside at *
  omega

theorem Apart.symm {s u : Span} (h : Apart s u) : Apart u s := Or.symm h

end Span

namespace Go

namespace Tree

mutual

/-- A node and all nodes below it. -/
def subtrees : Tree → List Tree
  | .node field kind span text children => .node field kind span text children :: subtreesOfAll children

def subtreesOfAll : List Tree → List Tree
  | [] => []
  | t :: rest => t.subtrees ++ subtreesOfAll rest

end

/-- A node that covers some text from one character boundary to another. The nodes right below it lie
inside of it and apart from each other. -/
structure Placed (source : String) (t : Tree) : Prop where
  nonempty : t.span.start.offset < t.span.stop.offset
  start : (Text.splitBytes? t.span.start.offset source.toList).isSome = true
  stop : (Text.splitBytes? t.span.stop.offset source.toList).isSome = true
  inside : ∀ c ∈ t.children, c.span.Inside t.span
  apart : t.children.Pairwise fun a b => a.span.Apart b.span

/-- A tree whose nodes are all placed in the source. -/
def WellPlaced (source : String) (t : Tree) : Prop := ∀ u ∈ t.subtrees, u.Placed source

instance (source : String) (t : Tree) : Decidable (t.Placed source) :=
  decidable_of_iff (t.span.start.offset < t.span.stop.offset ∧
      (Text.splitBytes? t.span.start.offset source.toList).isSome = true ∧
      (Text.splitBytes? t.span.stop.offset source.toList).isSome = true ∧
      (∀ c ∈ t.children, c.span.Inside t.span) ∧ t.children.Pairwise fun a b => a.span.Apart b.span)
    ⟨fun ⟨h₁, h₂, h₃, h₄, h₅⟩ => ⟨h₁, h₂, h₃, h₄, h₅⟩,
      fun h => ⟨h.nonempty, h.start, h.stop, h.inside, h.apart⟩⟩

instance (source : String) (t : Tree) : Decidable (t.WellPlaced source) :=
  inferInstanceAs (Decidable (∀ u ∈ t.subtrees, u.Placed source))

/-! ## Literals among arguments -/

mutual

/-- The literals among the arguments of calls below a node, which may itself stand for the arguments
of a call. Nothing inside a literal is an argument. -/
def literalsOf (arguments : Bool) : Tree → List Tree
  | .node field kind span text children =>
    if arguments then literalsAmong children
    else if (node field kind span text children).raw?.isSome then []
    else literalsIn (node field kind span text children).isApplied children

/-- The literals below nodes that stand side by side, maybe below a call. -/
def literalsIn (applied : Bool) : List Tree → List Tree
  | [] => []
  | t :: rest => literalsOf (applied && t.field = some .arguments) t ++ literalsIn applied rest

/-- The literals among arguments, and those below them. -/
def literalsAmong : List Tree → List Tree
  | [] => []
  | t :: rest => (if t.raw?.isSome then [t] else literalsOf false t) ++ literalsAmong rest

end

/-- The literals of a file that may be messages. -/
def literals (file : Tree) : List Tree := literalsIn false file.children

variable {source : String} {t c : Tree} {ts cs : List Tree}

/-- Placed nodes, each inside one of some nodes. Two of them are the same or lie apart. -/
structure Spread (source : String) (holders ts : List Tree) : Prop where
  placed : ∀ c ∈ ts, c.Placed source
  inside : ∀ c ∈ ts, ∃ t ∈ holders, c.span.Inside t.span
  apart : ∀ c ∈ ts, ∀ c' ∈ ts, c = c' ∨ c.span.Apart c'.span

theorem spread_nil (holders : List Tree) : Spread source holders [] :=
  ⟨by simp, by simp, by simp⟩

theorem Spread.below (h : Spread source t.children cs) (ht : t.Placed source) : Spread source [t] cs where
  placed := h.placed
  inside c hc := by
    obtain ⟨child, hchild, hinside⟩ := h.inside c hc
    exact ⟨t, List.mem_singleton_self t, hinside.trans (ht.inside child hchild)⟩
  apart := h.apart

theorem Spread.append {ds : List Tree} (h : Spread source [t] cs) (h' : Spread source ts ds)
    (hapart : ∀ u ∈ ts, t.span.Apart u.span) : Spread source (t :: ts) (cs ++ ds) where
  placed c hc := (List.mem_append.1 hc).elim (h.placed c) (h'.placed c)
  inside c hc := by
    rcases List.mem_append.1 hc with hc | hc
    · obtain ⟨u, hu, hinside⟩ := h.inside c hc
      obtain rfl := List.mem_singleton.1 hu
      exact ⟨u, List.mem_cons_self, hinside⟩
    · obtain ⟨u, hu, hinside⟩ := h'.inside c hc
      exact ⟨u, List.mem_cons_of_mem _ hu, hinside⟩
  apart c hc c' hc' := by
    -- literals on the two sides lie in nodes that lie apart
    have hsides : ∀ x ∈ cs, ∀ y ∈ ds, x.span.Apart y.span := by
      intro x hx y hy
      obtain ⟨u, hu, hxu⟩ := h.inside x hx
      obtain ⟨v, hv, hyv⟩ := h'.inside y hy
      obtain rfl := List.mem_singleton.1 hu
      exact (hapart v hv).mono hxu hyv
    rcases List.mem_append.1 hc with hc | hc <;> rcases List.mem_append.1 hc' with hc' | hc'
    · exact h.apart c hc c' hc'
    · exact .inr (hsides c hc c' hc')
    · exact .inr (hsides c' hc' c hc).symm
    · exact h'.apart c hc c' hc'

theorem WellPlaced.placed (h : t.WellPlaced source) : t.Placed source := by
  refine h t ?_
  cases t
  rw [subtrees]
  exact List.mem_cons_self

theorem mem_subtreesOfAll (hc : c ∈ ts) {u : Tree} (hu : u ∈ c.subtrees) : u ∈ subtreesOfAll ts := by
  induction ts with
  | nil => cases hc
  | cons t ts ih =>
    rw [subtreesOfAll, List.mem_append]
    rcases List.mem_cons.1 hc with rfl | hc
    · exact .inl hu
    · exact .inr (ih hc)

theorem WellPlaced.child (h : t.WellPlaced source) (hc : c ∈ t.children) : c.WellPlaced source := by
  intro u hu
  refine h u ?_
  cases t
  rw [subtrees]
  exact List.mem_cons_of_mem _ (mem_subtreesOfAll hc hu)

mutual

theorem spread_literalsOf (arguments : Bool) : ∀ t : Tree, t.WellPlaced source →
    Spread source [t] (literalsOf arguments t)
  | .node field kind span text children, h => by
    have hchildren : ∀ c ∈ children, c.WellPlaced source := fun c hc => h.child hc
    rw [literalsOf]
    split
    · exact (spread_literalsAmong children hchildren h.placed.apart).below h.placed
    · split
      · exact spread_nil _
      · exact (spread_literalsIn _ children hchildren h.placed.apart).below h.placed

theorem spread_literalsIn (applied : Bool) : ∀ ts : List Tree, (∀ t ∈ ts, t.WellPlaced source) →
    ts.Pairwise (fun a b => a.span.Apart b.span) → Spread source ts (literalsIn applied ts)
  | [], _, _ => by
    rw [literalsIn]
    exact spread_nil _
  | t :: rest, h, hapart => by
    obtain ⟨hhead, htail⟩ := List.pairwise_cons.1 hapart
    rw [literalsIn]
    exact (spread_literalsOf _ t (h t List.mem_cons_self)).append
      (spread_literalsIn applied rest (fun c hc => h c (List.mem_cons_of_mem _ hc)) htail) hhead

theorem spread_literalsAmong : ∀ ts : List Tree, (∀ t ∈ ts, t.WellPlaced source) →
    ts.Pairwise (fun a b => a.span.Apart b.span) → Spread source ts (literalsAmong ts)
  | [], _, _ => by
    rw [literalsAmong]
    exact spread_nil _
  | t :: rest, h, hapart => by
    obtain ⟨hhead, htail⟩ := List.pairwise_cons.1 hapart
    have ht := h t List.mem_cons_self
    have hfirst := spread_literalsOf false t ht
    have hrest := spread_literalsAmong rest (fun c hc => h c (List.mem_cons_of_mem _ hc)) htail
    rw [literalsAmong]
    refine Spread.append ?_ hrest hhead
    split
    · refine ⟨?_, ?_, ?_⟩
      · rintro c hc
        rw [List.mem_singleton.1 hc]
        exact ht.placed
      · rintro c hc
        rw [List.mem_singleton.1 hc]
        exact ⟨t, List.mem_singleton_self t, Nat.le_refl _, Nat.le_refl _⟩
      · rintro c hc c' hc'
        rw [List.mem_singleton.1 hc, List.mem_singleton.1 hc']
        exact .inl rfl
    · exact hfirst

end

/-- **The literals of a file that may be messages are the same or lie apart.** -/
theorem spread_literals {file : Tree} (h : file.WellPlaced source) :
    Spread source [file] file.literals :=
  (spread_literalsIn false file.children (fun _ hc => h.child hc) h.placed.apart).below h.placed

end Tree

end Go

end LogStyle
