import LogStyle.Engine
import LogStyle.Go.Frontend
import LogStyle.Proofs.Sources

/-!
# How deep a selected member lies

A selector takes what a type has by itself, and else goes on to what the type embeds. A type with a
name answers for every name, so the first embedded type that has a name is the only one that is
looked at.

* `Declarations.lead?`: the embedded field that a selector goes through.
* `Declarations.memberWithin?_succ`: one step of a selector.
* `Declarations.depth`, `Declarations.source`: how many embedded fields a selector goes through, and
  the type at which it stops (`memberWithin?_followed`).
* `Declarations.Reaches`, `Declarations.ReachesAside`: the types within reach of a type, and those
  that are reached through another embedded field than the one a selector goes through.
* `Declarations.depth_least_iff`: **no type that lies less deep has the selected name, unless it
  lies aside.** Types that lie aside are not looked at: a logger is selected past a type that
  declares the method (`selected_past_declared`).
-/

namespace LogStyle.Go.Declarations

/-- The types that a type of the file embeds, in their order. -/
def embeddedTypes (d : Declarations) (type : StaticType) : List StaticType :=
  match target type with
  | .named package typeName _ =>
    if package = d.package then ((d.types.get? typeName).map (·.embedded)).getD [] else []
  | _ => []

/-- Whether a type of the file has a field or a declared method with a name. -/
def has (d : Declarations) (name : String) (type : StaticType) : Bool :=
  match target type with
  | .named package typeName _ =>
    package = d.package && (((d.types.get? typeName).bind (·.fields.get? name)).isSome ||
      d.methods.contains (typeName, name))
  | _ => false

/-- The embedded field that a selector goes through: the first one whose type has a name. -/
def lead? (d : Declarations) (type : StaticType) : Option StaticType :=
  (d.embeddedTypes type).find? fun e => (embeddedName? e).isSome

variable {d : Declarations} {name : String} {limit : Nat} {type : StaticType}

theorem mem_embeddedTypes {e : StaticType} : e ∈ d.embeddedTypes type ↔
    ∃ typeName underlying layout, target type = .named d.package typeName underlying ∧
      d.types.get? typeName = some layout ∧ e ∈ layout.embedded := by
  unfold embeddedTypes
  cases htarget : target type with
  | string | pointer | other => simp
  | named package typeName underlying =>
    dsimp only
    split
    · rename_i hlocal
      cases hlayout : d.types.get? typeName <;> simp [hlocal, hlayout]
    · rename_i hlocal
      simp [hlocal]

theorem has_of_target {typeName : String} {underlying : StaticType}
    (h : target type = .named d.package typeName underlying) : d.has name type =
      (((d.types.get? typeName).bind (·.fields.get? name)).isSome ||
        d.methods.contains (typeName, name)) := by
  simp [has, h]

theorem isSome_memberWithin? :
    (d.memberWithin? name limit type).isSome = (embeddedName? type).isSome := by
  unfold memberWithin? embeddedName?
  cases target type with
  | string | pointer | other => rfl
  | named package typeName underlying =>
    dsimp only
    split
    · rfl
    · split
      · rfl
      · split
        · rfl
        · split
          · rfl
          · simp

theorem findSome?_eq_bind {α β : Type} (f : α → Option β) (l : List α) :
    l.findSome? f = (l.find? fun a => (f a).isSome).bind f := by
  induction l with
  | nil => rfl
  | cons a l ih =>
    rw [List.findSome?_cons, List.find?_cons]
    cases h : f a with
    | none => exact ih
    | some b => exact h.symm

theorem findSome?_embeddedTypes :
    (d.embeddedTypes type).findSome? (d.memberWithin? name limit) =
      (d.lead? type).bind (d.memberWithin? name limit) := by
  rw [findSome?_eq_bind]
  simp only [isSome_memberWithin?]
  rfl

/-- What a type does not have by itself, its embedded types may have. -/
theorem memberWithin?_of_not_has (h : d.has name type = false) :
    d.memberWithin? name (limit + 1) type =
      ((d.embeddedTypes type).findSome? (d.memberWithin? name limit)).or
        (d.memberWithin? name 0 type) := by
  unfold memberWithin? embeddedTypes
  unfold has at h
  cases htarget : target type with
  | string | pointer | other => simp
  | named package typeName underlying =>
    rw [htarget] at h
    by_cases hlocal : package = d.package
    · subst hlocal
      simp only [decide_true, Bool.true_and, Bool.or_eq_false_iff, Option.isSome_eq_false_iff,
        Option.isNone_iff_eq_none] at h
      simp [h.1, h.2]
    · simp [hlocal]

/-- What a type has by itself is selected, whatever it embeds. -/
theorem memberWithin?_of_has (h : d.has name type = true) :
    d.memberWithin? name limit type = d.memberWithin? name 0 type := by
  unfold memberWithin?
  unfold has at h
  cases htarget : target type with
  | string | pointer | other => simp
  | named package typeName underlying =>
    rw [htarget] at h
    simp only [Bool.and_eq_true, Bool.or_eq_true, decide_eq_true_eq] at h
    obtain ⟨rfl, h⟩ := h
    cases hfields : (d.types.get? typeName).bind (·.fields.get? name) with
    | some field => simp [hfields]
    | none =>
      have hmethods : d.methods.contains (typeName, name) = true := by simpa [hfields] using h
      simp [hfields, hmethods]

/-- **A selector goes through the first embedded field whose type has a name,** if the type itself
does not have what it selects. -/
theorem memberWithin?_succ : d.memberWithin? name (limit + 1) type =
    if d.has name type then d.memberWithin? name 0 type
    else match d.lead? type with
      | none => d.memberWithin? name 0 type
      | some e => d.memberWithin? name limit e := by
  split
  · rename_i h
    exact memberWithin?_of_has h
  · rename_i h
    rw [memberWithin?_of_not_has (by simpa using h), findSome?_embeddedTypes]
    cases hlead : d.lead? type with
    | none => rfl
    | some e =>
      have hnamed : (embeddedName? e).isSome = true :=
        List.find?_some (p := fun e => (embeddedName? e).isSome) hlead
      exact Option.or_of_isSome (by rw [Option.bind_some, isSome_memberWithin?, hnamed])

/-! ## The way of a selector -/

/-- How many embedded fields a selector goes through, and the type at which it stops. -/
def followed (d : Declarations) (name : String) : (limit : Nat) → StaticType → Nat × StaticType
  | 0, type => (0, type)
  | limit + 1, type =>
    if d.has name type then (0, type)
    else match d.lead? type with
      | none => (0, type)
      | some e => ((d.followed name limit e).1 + 1, (d.followed name limit e).2)

/-- How many embedded fields lie between a type and what is selected from it. -/
def depth (d : Declarations) (type : StaticType) (name : String) : Nat :=
  (d.followed name embeddingLimit type).1

/-- The type that has what is selected. -/
def source (d : Declarations) (type : StaticType) (name : String) : StaticType :=
  (d.followed name embeddingLimit type).2

/-- **The type at which a selector stops answers for itself.** -/
theorem memberWithin?_followed : d.memberWithin? name limit type =
    d.memberWithin? name 0 (d.followed name limit type).2 := by
  fun_induction followed d name limit type with
  | case1 type => rfl
  | case2 limit type h => exact memberWithin?_of_has h
  | case3 limit type h hlead => rw [memberWithin?_succ, if_neg h, hlead]
  | case4 limit type h e hlead ih => rw [memberWithin?_succ, if_neg h, hlead]; exact ih

theorem followed_le : (d.followed name limit type).1 ≤ limit := by
  fun_induction followed d name limit type with
  | case1 type => exact Nat.le_refl 0
  | case2 limit type h => exact Nat.zero_le _
  | case3 limit type h hlead => exact Nat.zero_le _
  | case4 limit type h e hlead ih => exact Nat.succ_le_succ ih

/-- A method that a type has by itself is named after the type. -/
theorem eq_method_of_memberWithin?_zero {f : FunctionId}
    (h : d.memberWithin? name 0 type = some (.method f)) :
    ∃ package typeName underlying, target type = .named package typeName underlying ∧
      f = .method package typeName name := by
  unfold memberWithin? at h
  cases htarget : target type with
  | string | pointer | other => simp [htarget] at h
  | named package typeName underlying =>
    refine ⟨package, typeName, underlying, rfl, ?_⟩
    simp only [htarget] at h
    split at h
    · simpa using h.symm
    · split at h
      · cases h
      · split at h <;> simpa using h.symm

/-- **A selected method is one of the type at which the selector stops.** -/
theorem eq_method_of_memberWithin? {f : FunctionId}
    (h : d.memberWithin? name limit type = some (.method f)) :
    ∃ package typeName underlying,
      target (d.followed name limit type).2 = .named package typeName underlying ∧
        f = .method package typeName name :=
  eq_method_of_memberWithin?_zero (memberWithin?_followed ▸ h)

/-! ## Types within reach -/

/-- A type is reached from another one through some number of embedded fields. -/
inductive Reaches (d : Declarations) : Nat → StaticType → StaticType → Prop where
  | self {type : StaticType} : Reaches d 0 type type
  | through {type embedded s : StaticType} {n : Nat} : embedded ∈ d.embeddedTypes type →
      Reaches d n embedded s → Reaches d (n + 1) type s

/-- A type is reached through embedded fields of which at least one is not the one that a selector
goes through. -/
inductive ReachesAside (d : Declarations) : Nat → StaticType → StaticType → Prop where
  | leaves {type embedded s : StaticType} {n : Nat} : embedded ∈ d.embeddedTypes type →
      d.lead? type ≠ some embedded → Reaches d n embedded s → ReachesAside d (n + 1) type s
  | follows {type embedded s : StaticType} {n : Nat} : d.lead? type = some embedded →
      ReachesAside d n embedded s → ReachesAside d (n + 1) type s

theorem lead?_mem {e : StaticType} (h : d.lead? type = some e) : e ∈ d.embeddedTypes type :=
  List.mem_of_find?_eq_some h

theorem ReachesAside.reaches {n : Nat} {s : StaticType} (h : d.ReachesAside n type s) :
    d.Reaches n type s := by
  induction h with
  | leaves hmem _ hreach => exact .through hmem hreach
  | follows hlead _ ih => exact .through (lead?_mem hlead) ih

theorem reaches_followed :
    d.Reaches (d.followed name limit type).1 type (d.followed name limit type).2 := by
  fun_induction followed d name limit type with
  | case1 | case2 | case3 => exact .self
  | case4 limit type h e hlead ih => exact .through (lead?_mem hlead) ih

/-- Nothing that lies less deep than what is selected has the name, unless it lies aside. -/
theorem has_eq_false_of_not_aside
    (h : ∀ n < (d.followed name limit type).1, ∀ s, d.ReachesAside n type s → d.has name s = false) :
    ∀ n < (d.followed name limit type).1, ∀ s, d.Reaches n type s → d.has name s = false := by
  fun_induction followed d name limit type with
  | case1 | case2 | case3 => exact fun n hn => absurd hn (Nat.not_lt_zero n)
  | case4 limit type hhas e hlead ih =>
    intro n hn s hreach
    cases hreach with
    | self => exact Bool.eq_false_iff.2 hhas
    | @through _ e' _ n hmem hreach =>
      by_cases hfollows : d.lead? type = some e'
      · obtain rfl := Option.some.inj (hlead.symm.trans hfollows)
        refine ih (fun m hm s haside => ?_) n (Nat.lt_of_succ_lt_succ hn) s hreach
        exact h (m + 1) (Nat.succ_lt_succ hm) s (.follows hlead haside)
      · exact h (n + 1) hn s (.leaves hmem hfollows hreach)

/-- **When a selected member is the least deep one.** What is selected from a type is what the type
at the end of the selector's way has by itself. The types on the way are looked at and do not have
the name, so no type that lies less deep has it if and only if none that lies aside has it. -/
theorem depth_least_iff (d : Declarations) (type : StaticType) (name : String) :
    d.depth type name ≤ embeddingLimit ∧
      d.Reaches (d.depth type name) type (d.source type name) ∧
      d.member? type name = d.memberWithin? name 0 (d.source type name) ∧
      (∀ f, d.member? type name = some (.method f) → ∃ package typeName underlying,
        target (d.source type name) = .named package typeName underlying ∧
          f = .method package typeName name) ∧
      ((∀ n < d.depth type name, ∀ s, d.Reaches n type s → d.has name s = false) ↔
        ∀ n < d.depth type name, ∀ s, d.ReachesAside n type s → d.has name s = false) := by
  refine ⟨followed_le, reaches_followed, memberWithin?_followed, ?_, ?_, ?_⟩
  · exact fun f hf => eq_method_of_memberWithin? hf
  · exact fun h n hn s haside => h n hn s haside.reaches
  · exact has_eq_false_of_not_aside

/-- A struct with two embedded fields: behind the first there is a logger, and the second declares the
method. -/
def deepAndFlat : String :=
  "package p\nimport \"log/slog\"\ntype deep struct\x7b*slog.Logger\x7d\n" ++
    "type flat struct\x7b\x7d\ntype both struct\x7bdeep;flat\x7d\n" ++
    "func(flat)Info(string)\x7b\x7d\nfunc f(x both)\x7bx.Info(\"A\")\x7d"

/-- A logger two embedded fields away is selected, and reported, though a type that is one embedded
field away declares the method. -/
theorem selected_past_declared : ∃ file, Tree.ofSource? deepAndFlat = some file ∧
    ∃ d both, d = ofTrees file.parts ∧ both = d.localNamed "both" ∧
      d.member? both "Info" = some (.method (.method LoggingApi.slogPackage "Logger" "Info")) ∧
      (∃ n < d.depth both "Info", ∃ s, d.Reaches n both s ∧ d.has "Info" s = true) ∧
      (Engine.check ⟨[⟨Rule.lowercaseStart, .warning⟩]⟩ ⟨"main.go", (lowerFile file).1⟩
        (lowerFile file).2.resolver).isEmpty = false := by
  have hfile : (Tree.ofSource? deepAndFlat).any (fun file =>
        let d := ofTrees file.parts
        let both := d.localNamed "both"
        let flat := d.localNamed "flat"
        d.member? both "Info" = some (.method (.method LoggingApi.slogPackage "Logger" "Info")) &&
          (d.depth both "Info" = 2 && flat ∈ d.embeddedTypes both && d.has "Info" flat) &&
          !(Engine.check ⟨[⟨Rule.lowercaseStart, .warning⟩]⟩ ⟨"main.go", (lowerFile file).1⟩
            (lowerFile file).2.resolver).isEmpty) = true := by
    simp only [Tree.ofSource?_eq]
    decide +kernel
  obtain ⟨file, hfile, hall⟩ := (Option.any_eq_true _ _).1 hfile
  simp only [Bool.and_eq_true, decide_eq_true_eq, Bool.not_eq_true'] at hall
  obtain ⟨⟨hmember, ⟨hdepth, hmem⟩, hhas⟩, hreported⟩ := hall
  refine ⟨file, hfile, _, _, rfl, rfl, hmember, ⟨1, ?_, _, .through hmem .self, hhas⟩, hreported⟩
  rw [hdepth]
  decide

end LogStyle.Go.Declarations
