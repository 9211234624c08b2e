import LogStyle.Proofs.Changes
import LogStyle.Proofs.Splicing

/-!
# What a check with fixes counts as left

Places in the report, places among the replacements for a file and the accepted ones of these are
three different numberings. They are translated into each other without a mistake: a violation is
counted as fixed if and only if its own replacement is accepted for its own file.

* `Fixes.fileOf?`: the file that a violation is about.
* `Fixes.rank`: the place of a violation's own replacement among those for a file.
* `Fixes.getElem?_replacements`: **the replacement at the rank of a violation is its own.**
* `Fixes.isFixed_iff_isAccepted`: a violation is fixed if its own replacement is accepted.
* `Fixes.left_exact`: **what is left is what carries no replacement or whose own is not accepted.**
-/

namespace LogStyle

namespace Fixes

variable {analysis : Analysis} {violations : List Violation} {file : SourceFile} {fix : FileFix}
  {r : Replacement} {v : Violation} {i k : Nat}

/-- The file that a violation is about, if it was checked. -/
def fileOf? (analysis : Analysis) (v : Violation) : Option SourceFile :=
  analysis.files.find? fun file => Path.same v.location.file file.display

/-- The replacements for a file, in the order of the report. -/
def offered (violations : List Violation) (file : SourceFile) : List Replacement :=
  (violations.filter (Path.same ·.location.file file.display)).filterMap Violation.replacement?

/-- The place of a violation's own replacement among those for a file: so many come before it. -/
def rank (violations : List Violation) (file : SourceFile) (i : Nat) : Nat :=
  (offered (violations.take i) file).length

/-- Whether a violation's own replacement is among those that are accepted for its file. -/
def isAccepted (analysis : Analysis) (v : Violation) (i : Nat) : Bool :=
  match fileOf? analysis v with
  | none => false
  | some file => (Edit.apply file.text (offered analysis.result.violations file)).applied.contains
      (rank analysis.result.violations file i)

/-! ## From violations to replacements -/

theorem length_replacements (violations : List Violation) (file : SourceFile) :
    (FileFix.replacements violations file.display).length = (offered violations file).length := by
  rw [offered, ← FileFix.map_replacements, List.length_map]

/-- The replacement at the rank of a violation is its own. -/
theorem getElem?_rank (hv : violations[i]? = some v)
    (hsame : Path.same v.location.file file.display = true) (hr : v.replacement? = some r) :
    (FileFix.replacements violations file.display)[rank violations file i]? = some (r, i) := by
  obtain ⟨hi, hget⟩ := List.getElem?_eq_some_iff.1 hv
  have hsplit : violations = violations.take i ++ v :: violations.drop (i + 1) := by
    rw [← hget, ← List.drop_eq_getElem_cons hi, List.take_append_drop]
  have hzip : violations.zipIdx =
      (violations.take i).zipIdx ++ (v, i) :: (violations.drop (i + 1)).zipIdx (i + 1) := by
    conv_lhs => rw [hsplit]
    rw [List.zipIdx_append, List.zipIdx_cons, List.length_take_of_le (Nat.le_of_lt hi), Nat.zero_add]
  -- so many replacements for the file come before the one of the violation
  have hbefore : (FileFix.replacements (violations.take i) file.display).length =
      rank violations file i := length_replacements _ _
  unfold FileFix.replacements at hbefore ⊢
  rw [hzip, List.filterMap_append, List.getElem?_append_right (Nat.le_of_eq hbefore), hbefore,
    Nat.sub_self]
  simp [hsame, hr]

/-- The replacements for a file come in the order of their violations. -/
theorem pairwise_replacements (violations : List Violation) (file : SourceFile) :
    (FileFix.replacements violations file.display).Pairwise fun a b => a.2 < b.2 := by
  rw [FileFix.replacements, List.pairwise_filterMap]
  refine (Edit.pairwise_zipIdx violations).imp fun {a b} hlt x hx y hy => ?_
  simp only [Option.ite_none_right_eq_some, Option.map_eq_some_iff] at hx hy
  obtain ⟨-, r, -, rfl⟩ := hx
  obtain ⟨-, s, -, rfl⟩ := hy
  exact hlt

/-- **Each replacement for a file is at the rank of its own violation.** -/
theorem getElem?_replacements : (FileFix.replacements violations file.display)[k]? = some (r, i) ↔
    ∃ v, violations[i]? = some v ∧ Path.same v.location.file file.display = true ∧
      v.replacement? = some r ∧ k = rank violations file i := by
  constructor
  · intro h
    obtain ⟨v, hv, hsame, hr⟩ := FileFix.mem_replacements.1 (List.mem_of_getElem? h)
    refine ⟨v, hv, hsame, hr, ?_⟩
    -- no replacement is given twice, so it stands at no other place
    have hnodup : (FileFix.replacements violations file.display).Nodup := by
      refine (pairwise_replacements violations file).imp fun {a b} hlt heq => ?_
      rw [heq] at hlt
      exact Nat.lt_irrefl _ hlt
    obtain ⟨hk, -⟩ := List.getElem?_eq_some_iff.1 h
    exact (List.getElem?_inj hk hnodup).1 (h.trans (getElem?_rank hv hsame hr).symm)
  · rintro ⟨v, hv, hsame, hr, rfl⟩
    exact getElem?_rank hv hsame hr

/-! ## From replacements to violations -/

/-- The file of a violation is the only one with its path in the report. -/
theorem fileOf?_eq_some_iff (hnodup : (analysis.files.map fun f => Path.components f.display).Nodup) :
    fileOf? analysis v = some file ↔
      file ∈ analysis.files ∧ Path.same v.location.file file.display = true := by
  unfold fileOf?
  constructor
  · intro h
    exact ⟨List.mem_of_find?_eq_some h, by simpa using List.find?_some h⟩
  · rintro ⟨hfile, hsame⟩
    cases hfind : analysis.files.find? fun file => Path.same v.location.file file.display with
    | none => exact absurd hsame (List.find?_eq_none.1 hfind file hfile)
    | some other =>
      have hother := List.find?_some hfind
      have hcomponents : Path.components other.display = Path.components file.display :=
        (of_decide_eq_true hother).symm.trans (of_decide_eq_true hsame)
      rw [List.inj_on_of_nodup_map hnodup (List.mem_of_find?_eq_some hfind) hfile hcomponents]

/-- **A violation is fixed if and only if its own replacement is accepted for its own file.** -/
theorem isFixed_iff_isAccepted
    (hnodup : (analysis.files.map fun f => Path.components f.display).Nodup)
    (hv : analysis.result.violations[i]? = some v) : isFixed (plan analysis) i = true ↔
      v.isFixable = true ∧ isAccepted analysis v i = true := by
  rw [isFixed_iff]
  constructor
  · rintro ⟨file, hfile, r, k, hk, hki⟩
    -- the place in the report is that of the violation itself
    obtain ⟨w, hw, hsame, hr, rfl⟩ := getElem?_replacements.1 hki
    obtain rfl := Option.some.inj (hv.symm.trans hw)
    have happlied := exists_mem_accepted.1 ⟨r, hk⟩
    rw [FileFix.map_replacements] at happlied
    refine ⟨by rw [Violation.isFixable, hr]; rfl, ?_⟩
    rw [isAccepted, (fileOf?_eq_some_iff hnodup).2 ⟨hfile, hsame⟩]
    exact List.contains_iff_mem.2 happlied
  · rintro ⟨hfixable, haccepted⟩
    obtain ⟨r, hr⟩ := Option.isSome_iff_exists.1 hfixable
    unfold isAccepted at haccepted
    split at haccepted
    · cases haccepted
    · rename_i file hfileOf
      obtain ⟨hfile, hsame⟩ := (fileOf?_eq_some_iff hnodup).1 hfileOf
      have happlied := List.contains_iff_mem.1 haccepted
      rw [offered, ← FileFix.map_replacements] at happlied
      obtain ⟨s, hs⟩ := exists_mem_accepted.2 happlied
      obtain ⟨j, hj⟩ := getElem?_of_mem_accepted hs
      -- what is accepted at the rank is the violation's own replacement
      have hown := getElem?_rank hv hsame hr
      obtain ⟨rfl, rfl⟩ := Prod.mk.inj (Option.some.inj (hj.symm.trans hown))
      exact ⟨file, hfile, s, _, hs, hown⟩

theorem of_mem_plan (h : fix ∈ plan analysis) : fix.file ∈ analysis.files ∧
    fix.outcome = Edit.apply fix.file.text (offered analysis.result.violations fix.file) ∧
    fix.violations =
      (FileFix.replacements analysis.result.violations fix.file.display).map (·.2) := by
  obtain ⟨file, hfile, hof⟩ := List.mem_filterMap.1 h
  unfold FileFix.of? at hof
  simp only [Option.ite_none_left_eq_some, Option.some.injEq] at hof
  obtain ⟨-, rfl⟩ := hof
  exact ⟨hfile, by rw [FileFix.map_replacements]; rfl, rfl⟩

/-- An accepted replacement belongs to a violation, and is that violation's own. -/
theorem exists_own (h : fix ∈ plan analysis) (hk : k ∈ fix.outcome.applied) :
    ∃ i v r, fix.violations[k]? = some i ∧ analysis.result.violations[i]? = some v ∧
      Path.same v.location.file fix.file.display = true ∧ v.replacement? = some r ∧
      (offered analysis.result.violations fix.file)[k]? = some r := by
  obtain ⟨-, houtcome, hviolations⟩ := of_mem_plan h
  rw [houtcome, offered, ← FileFix.map_replacements] at hk
  obtain ⟨r, hr⟩ := exists_mem_accepted.2 hk
  obtain ⟨i, hi⟩ := getElem?_of_mem_accepted hr
  obtain ⟨v, hv, hsame, hrep, -⟩ := getElem?_replacements.1 hi
  refine ⟨i, v, r, ?_, hv, hsame, hrep, ?_⟩
  · rw [hviolations, List.getElem?_map, hi]
    rfl
  · rw [offered, ← FileFix.map_replacements, List.getElem?_map, hi]
    rfl

/-- **What is left is counted exactly.** Where files have different paths in the report, the violations
from a threshold on that are left are those that carry no replacement or whose own is not accepted for
their file. If all files can be written, this number decides. No index leads out of its list, and what
an accepted replacement marks as fixed is the violation that carries it. -/
theorem left_exact (hnodup : (analysis.files.map fun f => Path.components f.display).Nodup)
    (fs : FileSystem) (threshold : Severity) :
    left analysis (plan analysis) threshold =
      analysis.result.violations.zipIdx.countP (fun (v, i) =>
        v.severity.reaches threshold && (!v.isFixable || !isAccepted analysis v i)) ∧
    ((write fs (plan analysis)).2.2 = .ok () → (Check.fix fs analysis threshold).result =
      .ok (0 < left analysis (plan analysis) threshold)) ∧
    ∀ fix ∈ plan analysis,
      (∀ k ∈ fix.outcome.applied, k < fix.violations.length) ∧
      (∀ i ∈ fix.violations, i < analysis.result.violations.length) ∧
      ∀ k ∈ fix.outcome.applied, ∀ i, fix.violations[k]? = some i →
        ∃ v r, analysis.result.violations[i]? = some v ∧ fileOf? analysis v = some fix.file ∧
          v.replacement? = some r ∧ (offered analysis.result.violations fix.file)[k]? = some r := by
  refine ⟨?_, fun hwritten => ?_, fun fix hfix => ⟨fun k hk => ?_, fun i hi => ?_, ?_⟩⟩
  · refine List.countP_congr fun x hx => ?_
    obtain ⟨v, i⟩ := x
    have hfixed := isFixed_iff_isAccepted hnodup (List.mem_zipIdx_iff_getElem?.1 hx)
    rw [← Bool.and_eq_true, ← Bool.eq_iff_iff] at hfixed
    simp only [hfixed, Bool.not_and, Bool.and_comm, Bool.or_comm]
  · unfold Check.fix
    simp only [hwritten]
  · obtain ⟨i, -, -, hi, -⟩ := exists_own hfix hk
    exact (List.getElem?_eq_some_iff.1 hi).1
  · rw [(of_mem_plan hfix).2.2, List.mem_map] at hi
    obtain ⟨⟨r, i⟩, hi, rfl⟩ := hi
    obtain ⟨v, hv, -⟩ := FileFix.mem_replacements.1 hi
    exact (List.getElem?_eq_some_iff.1 hv).1
  · intro k hk i hi
    obtain ⟨j, v, r, hj, hv, hsame, hr, hown⟩ := exists_own hfix hk
    obtain rfl := Option.some.inj (hi.symm.trans hj)
    exact ⟨v, r, hv, (fileOf?_eq_some_iff hnodup).2 ⟨(of_mem_plan hfix).1, hsame⟩, hr, hown⟩

/-- One replacement is made of several that are given by their start. -/
theorem apply_of_accept_eq_singleton {source : String} {rs : List Replacement}
    (hsorted : rs.zipIdx.Pairwise fun a b => a.1.location.offset ≤ b.1.location.offset)
    (haccept : Edit.accept source.toList 0 rs.zipIdx = [(r, k)]) :
    Edit.apply source rs = ⟨String.ofList (Edit.splice source.toList r), [k]⟩ := by
  have horder : Edit.inOrder rs = rs.zipIdx :=
    List.mergeSort_of_pairwise (hsorted.imp decide_eq_true)
  simp only [Edit.apply, horder, haccept, List.foldr_cons, List.foldr_nil, List.map_cons,
    List.map_nil, List.mergeSort_singleton]

/-- A violation at a place of a file, with a text to put there. -/
def sampleViolation (file : String) (offset : Nat) (newText : Option String) : Violation :=
  let location : Location := ⟨file, 1, offset + 1, offset, 4⟩
  { code := "LM001"
    rule := "lowercase-start"
    severity := .warning
    location := location
    message := ""
    suggestion := newText.map fun text => ⟨"", some ⟨location, text⟩⟩ }

/-- Two files whose violations are mixed in the report. One of them carries no replacement, and two
have theirs at one place. -/
def mixedReport : Analysis where
  files := [⟨⟨"p/a.go", "a.go"⟩, "f(\"A!\")"⟩, ⟨⟨"p/b.go", "b.go"⟩, "g(\"B!\")"⟩]
  result :=
    { violations := [sampleViolation "a.go" 2 none, sampleViolation "b.go" 2 (some "\"b!\""),
        sampleViolation "a.go" 2 (some "\"a!\""), sampleViolation "a.go" 2 (some "\"A\"")] }

/-- What is done to the two files. -/
def mixedFixes : List FileFix :=
  [⟨⟨⟨"p/a.go", "a.go"⟩, "f(\"A!\")"⟩, ⟨"f(\"a!\")", [0]⟩, [2, 3]⟩,
    ⟨⟨⟨"p/b.go", "b.go"⟩, "g(\"B!\")"⟩, ⟨"g(\"b!\")", [0]⟩, [1]⟩]

/-- The file system of the two files. -/
def mixedFiles : FileSystem where
  entries := .ofList [(["p"], .directory), (["p", "a.go"], .file (.text "f(\"A!\")")),
    (["p", "b.go"], .file (.text "g(\"B!\")"))]

theorem plan_mixedReport : plan mixedReport = mixedFixes := by
  let first : Replacement := ⟨⟨"a.go", 1, 3, 2, 4⟩, "\"a!\""⟩
  let second : Replacement := ⟨⟨"b.go", 1, 3, 2, 4⟩, "\"b!\""⟩
  have hfirst : FileFix.replacements mixedReport.result.violations "a.go" =
      [(first, 2), (⟨first.location, "\"A\""⟩, 3)] := by
    decide +kernel
  have hsecond : FileFix.replacements mixedReport.result.violations "b.go" = [(second, 1)] := by
    decide +kernel
  have hfirst' : Edit.apply "f(\"A!\")" [first, ⟨first.location, "\"A\""⟩] =
      ⟨"f(\"a!\")", [0]⟩ := by
    rw [@apply_of_accept_eq_singleton first 0 _ _ (by decide) (by decide +kernel)]
    decide +kernel
  have hsecond' : Edit.apply "g(\"B!\")" [second] = ⟨"g(\"b!\")", [0]⟩ := by
    rw [@apply_of_accept_eq_singleton second 0 _ _ (by decide) (by decide +kernel)]
    decide +kernel
  have hfiles : mixedReport.files = mixedFixes.map (·.file) := rfl
  simp [plan, hfiles, FileFix.of?, mixedFixes, hfirst, hsecond, hfirst', hsecond']

theorem left_exact_mixedReport :
    (mixedReport.files.map fun f => Path.components f.display).Nodup ∧
    (write mixedFiles (plan mixedReport)).2.2 = .ok () ∧
    mixedReport.result.violations.zipIdx.countP (fun (v, i) => v.severity.reaches .warning &&
      (!v.isFixable || !isAccepted mixedReport v i)) = 2 ∧
    (Check.fix mixedFiles mixedReport .warning).result = .ok true ∧
    ∃ fix ∈ plan mixedReport, fix.file.display = "a.go" ∧ fix.outcome.applied = [0] ∧
      fix.violations[0]? = some 2 ∧
      ∃ v, mixedReport.result.violations[2]? = some v ∧ fileOf? mixedReport v = some fix.file := by
  have hnodup : (mixedReport.files.map fun f => Path.components f.display).Nodup := by decide
  have hwritten : (write mixedFiles (plan mixedReport)).2.2 = .ok () := by
    rw [plan_mixedReport]
    rfl
  have hleft : left mixedReport (plan mixedReport) .warning = 2 := by
    rw [plan_mixedReport]
    rfl
  obtain ⟨hcount, hresult, hfixes⟩ := left_exact hnodup mixedFiles .warning
  refine ⟨hnodup, hwritten, hcount.symm.trans hleft, (hresult hwritten).trans (by rw [hleft]; rfl),
    ?_⟩
  rw [plan_mixedReport] at hfixes ⊢
  obtain ⟨-, -, howned⟩ := hfixes _ List.mem_cons_self
  obtain ⟨v, -, hv, hfile, -⟩ := howned 0 List.mem_cons_self 2 rfl
  exact ⟨_, List.mem_cons_self, rfl, rfl, rfl, v, hv, hfile⟩

end Fixes

end LogStyle
