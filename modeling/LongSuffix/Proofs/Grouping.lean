import LongSuffix.Proofs.DryRun
import LongSuffix.Report.Decode

/-!
# What the groups of a report hold

The groups of a report are its valid positions by file, and no group is empty, so a run never comes
to a file without positions. In a report with nothing wrong no violation is without a position, and each
of them is in a group (`ViolationReport.groups_account`). The reports that are loaded are such ones.
-/

namespace LongSuffix

/-! ## Runs on groups that are not empty -/

theorem locatorFor_error {analyzer : Analyzer} {path : Path} {strategy : Strategy} {text : String}
    {e : FixError} (h : locatorFor analyzer path strategy text = .error e) :
    ∃ fault, e = .noTokens path fault := by
  unfold locatorFor at h
  split at h
  · cases h
  · split at h
    · cases h
    · next fault _ => cases h; exact ⟨fault, rfl⟩

theorem fixText_ne_noPositions (analyzer : Analyzer) (path : Path) {positions : PositionSet}
    (strategy : Strategy) (hne : positions.isEmpty = false) (text : String) :
    (fixText analyzer path positions strategy text).result ≠ .error .noPositions := by
  obtain ⟨e, hloc, hres⟩ | ⟨loc, -, -, ⟨hnone, -⟩ | ⟨r, d, -, hres | ⟨-, -, _, -, hres⟩⟩⟩ :=
    fixText_cases analyzer path positions strategy text
  · obtain ⟨fault, rfl⟩ := locatorFor_error hloc
    simp [hres]
  · rw [loc.fix?_eq_some hne] at hnone
    cases hnone
  · simp [hres]
  · simp [hres]

namespace Call

variable {σ : Type} (store : Store (StateM σ)) (c : Call) (hne : c.positions.isEmpty = false)
  (s : σ)
include hne

theorem preview_ne_noPositions :
    ((c.preview store).run s).1.result ≠ .error .noPositions := by
  rw [preview, run_previewFile, hne]
  unfold runOfLoad
  simp only [Bool.false_eq_true, if_false]
  split
  · simp
  · simp
  · exact fixText_ne_noPositions c.analyzer c.path c.strategy hne _

theorem run_ne_noPositions : ((c.run store).run s).1.result ≠ .error .noPositions := by
  have hpreview := preview_ne_noPositions store c hne s
  obtain ⟨mode, analyzer, path, positions, strategy⟩ := c
  cases mode with
  | check => exact hpreview
  | apply =>
    simp only [run, Mode.run, preview] at hpreview ⊢
    rcases hp : (previewFile analyzer path positions strategy store).run s with
      ⟨⟨events, e | fix⟩, s'⟩
    · rw [hp] at hpreview
      rw [run_fixFile_of_error hp]
      exact hpreview
    · cases hc : fix.report.changed with
      | false => simp [run_fixFile_of_unchanged hp hc]
      | true =>
        rcases hw : (store.persist path fix.updated).run s' with ⟨fault | _, s''⟩
        · simp [run_fixFile_of_unwritten hp hc hw]
        · simp [run_fixFile_of_written hp hc hw]

end Call

/-- Each result is that of a run on a group, started somewhere on the way. -/
theorem exists_of_mem_runGroups {σ : Type} (store : Store (StateM σ)) (mode : Mode)
    (analyzer : Analyzer) (strategy : Strategy) {groups : Groups} {s : σ} {result : FileResult}
    (h : result ∈ ((runGroups mode analyzer strategy store groups).run s).1.results) :
    ∃ g ∈ groups, ∃ t,
      result = (g.1, (((groupCall mode analyzer strategy g).run store).run t).1.result) := by
  induction groups generalizing s with
  | nil => cases h
  | cons g groups ih =>
    rw [(run_runGroups_cons mode analyzer strategy g groups s).1] at h
    rcases List.mem_cons.1 h with rfl | h
    · exact ⟨g, List.mem_cons_self, s, rfl⟩
    · obtain ⟨g', hg', hresult⟩ := ih h
      exact ⟨g', List.mem_cons_of_mem _ hg', hresult⟩

/-! ## Reports with nothing wrong -/

theorem ViolationReport.issues_of_load {path : Option Path} {text : String} {r : ViolationReport}
    (h : load path text = .ok r) : r.issues = [] := by
  unfold load at h
  split at h
  · cases h
  · split at h
    · cases h
    · split at h
      · next hissues => cases h; simpa using hissues
      · cases h

/-- A report with nothing wrong has violations, and each of them has a position. -/
theorem ViolationReport.positions_of_no_issues {r : ViolationReport} (h : r.issues = []) :
    r.violations ≠ [] ∧ ∀ v ∈ r.violations, ∃ p, v.position = .ok p := by
  obtain ⟨hempty, hissues⟩ := List.append_eq_nil_iff.1 h
  constructor
  · rintro hnil
    rw [hnil] at hempty
    cases hempty
  · intro v hv
    obtain ⟨i, hi⟩ := List.mem_iff_getElem?.1 hv
    have hzip : (v, i) ∈ r.violations.zipIdx := List.mem_zipIdx_iff_getElem?.2 hi
    have hnone := (List.append_eq_nil_iff.1 (List.flatMap_eq_nil_iff.1 hissues (v, i) hzip)).2
    cases hp : v.position with
    | ok p => exact ⟨p, rfl⟩
    | error cause => rw [hp] at hnone; cases hnone

/-- **The groups of a report are its violations by file.** They are in strict order, hold the valid
positions and no others, and change in nothing but the spelling of paths if violations are moved or
repeated; so a run finds no file without positions. In a report with nothing wrong, as every one is that
was loaded, no violation is lost. -/
theorem ViolationReport.groups_account (r : ViolationReport) (workspace : Path) :
    (r.groups workspace).Collects (r.resolve workspace) r.violations ∧
      (∀ vs, (∀ v, v ∈ vs ↔ v ∈ r.violations) →
        (groups { r with violations := vs } workspace).unspelled =
          (r.groups workspace).unspelled) ∧
      (∀ {σ : Type} (store : Store (StateM σ)) (analyzer : Analyzer) (mode : Mode) (s : σ),
        ∀ result ∈ r.resultsFrom analyzer workspace store s mode,
          result.2 ≠ .error .noPositions) ∧
      (r.issues = [] → r.groups workspace ≠ [] ∧ ∀ v ∈ r.violations, ∃ p, v.position = .ok p ∧
        (r.groups workspace).Has (r.resolve workspace v).components p) ∧
      ∀ path text, load path text = .ok r → r.issues = [] := by
  have hcollects := r.collects_groups workspace
  refine ⟨hcollects, fun vs hvs => ?_, fun store analyzer mode s result hresult => ?_,
    fun hissues => ?_, fun path text => issues_of_load⟩
  · exact (collects_groups { r with violations := vs } workspace).unspelled_eq hcollects hvs
  · obtain ⟨g, hg, t, rfl⟩ := exists_of_mem_runGroups store mode analyzer _ hresult
    exact Call.run_ne_noPositions store (groupCall mode analyzer r.metadata.strategy g)
      (hcollects.nonempty g hg) t
  · obtain ⟨hne, hpositions⟩ := positions_of_no_issues hissues
    have hhas : ∀ v ∈ r.violations, ∃ p, v.position = .ok p ∧
        (r.groups workspace).Has (r.resolve workspace v).components p := by
      intro v hv
      obtain ⟨p, hp⟩ := hpositions v hv
      exact ⟨p, hp, (hcollects.has_iff _ p).2 ⟨v, hv, hp, rfl⟩⟩
    obtain ⟨v, hv⟩ := List.exists_mem_of_ne_nil _ hne
    obtain ⟨p, -, g, hg, -⟩ := hhas v hv
    exact ⟨List.ne_nil_of_mem hg, hhas⟩

/-- Two spellings of one path below a workspace, and a path that is absolute. -/
def Sample.reportText : String :=
  "violations = [['a//B.java', 2, 4], ['/C.java', 1, 1], ['a/./B.java', 1, 9]]
[meta]
workspace_relative = true
"

def Sample.spelledReport : ViolationReport :=
  ⟨{ workspaceRelative := true },
    [⟨"a//B.java", 2, 4⟩, ⟨"/C.java", 1, 1⟩, ⟨"a/./B.java", 1, 9⟩]⟩

/-- The violations of the report, some of them twice and in another order. -/
def Sample.respelled : List Violation :=
  [⟨"a/./B.java", 1, 9⟩, ⟨"/C.java", 1, 1⟩, ⟨"a//B.java", 2, 4⟩, ⟨"/C.java", 1, 1⟩]

theorem eq_ok_of_toOption {ε α : Type} {result : Except ε α} {a : α}
    (h : result.toOption = some a) : result = .ok a := by
  cases result with
  | error e => cases h
  | ok b => exact congrArg Except.ok (Option.some.inj h)

-- Errors of reports cannot be compared, so it is the option that is evaluated.
theorem Sample.load_reportText : ViolationReport.load none reportText = .ok spelledReport :=
  eq_ok_of_toOption (by decide +kernel)

theorem ViolationReport.groups_account_sample :
    (∀ v, v ∈ Sample.respelled ↔ v ∈ Sample.spelledReport.violations) ∧
      load none Sample.reportText = .ok Sample.spelledReport ∧ Sample.spelledReport.issues = [] ∧
      (Sample.spelledReport.groups ⟨"src"⟩).Collects (Sample.spelledReport.resolve ⟨"src"⟩)
        Sample.spelledReport.violations ∧
      (groups { Sample.spelledReport with violations := Sample.respelled } ⟨"src"⟩).unspelled =
        (Sample.spelledReport.groups ⟨"src"⟩).unspelled ∧
      Sample.spelledReport.groups ⟨"src"⟩ ≠ [] ∧
      ∀ result ∈ Sample.spelledReport.resultsFrom Java.analyzer ⟨"src"⟩ Memory.medium.store
          Sample.memory .apply, result.2 ≠ .error .noPositions := by
  obtain ⟨hcollects, hrespelled, hresults, hkept, hloaded⟩ :=
    groups_account Sample.spelledReport ⟨"src"⟩
  have hsub : ∀ v ∈ Sample.respelled, v ∈ Sample.spelledReport.violations := by decide +kernel
  have hsup : ∀ v ∈ Sample.spelledReport.violations, v ∈ Sample.respelled := by decide +kernel
  have hmem : ∀ v, v ∈ Sample.respelled ↔ v ∈ Sample.spelledReport.violations :=
    fun v => ⟨hsub v, hsup v⟩
  have hissues := hloaded none Sample.reportText Sample.load_reportText
  exact ⟨hmem, Sample.load_reportText, hissues, hcollects, hrespelled _ hmem, (hkept hissues).1,
    hresults _ _ _ _⟩

end LongSuffix
