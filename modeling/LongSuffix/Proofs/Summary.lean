import LongSuffix.Cli.Run
import LongSuffix.Proofs.Grouping
import LongSuffix.Proofs.Repeat

/-!
# The summary of an application

The command that applies a report ends with four counts. They are taken from the results of the
files, and files may fail after something in them was counted. All the same they are true of the
store: each group has a cell of its own, and what it adds to the counts is what becomes of this cell
(`Settles.raisedBy`). The counts of a dry run are those of the real one, if what the latter writes
can be written (`Cli.summary_holds`).
-/

namespace LongSuffix

/-! ## Sums -/

theorem countP_eq_sum {α : Type} (p : α → Bool) (l : List α) :
    l.countP p = (l.map fun a => if p a then 1 else 0).sum := by
  induction l with
  | nil => rfl
  | cons a l ih => rw [List.countP_cons, List.map_cons, List.sum_cons, ih, Nat.add_comm]

theorem sum_map_filter_pos {α : Type} (f : α → Nat) (l : List α) :
    ((l.filter (0 < f ·)).map f).sum = (l.map f).sum := by
  induction l with
  | nil => rfl
  | cons a l ih =>
    by_cases h : 0 < f a
    · rw [List.filter_cons_of_pos (by simpa using h), List.map_cons, List.map_cons, List.sum_cons,
        List.sum_cons, ih]
    · rw [List.filter_cons_of_neg (by simpa using h), List.map_cons, List.sum_cons, ih]
      omega

namespace Totals

/-- What one result adds to the totals. -/
def of (result : Except FixError FileFix) : Totals := zero.add result

@[simp] theorem of_ok (fix : FileFix) : of (.ok fix) =
    ⟨fix.report.fixedCount, fix.report.skipped.length, if fix.persisted then 1 else 0, 0⟩ := by
  simp [of, add, zero]

@[simp] theorem of_error (e : FixError) : of (.error e) = ⟨0, 0, 0, 1⟩ := rfl

theorem add_eq (t : Totals) (result : Except FixError FileFix) :
    t.add result = ⟨t.fixed + (of result).fixed, t.skipped + (of result).skipped,
      t.written + (of result).written, t.failed + (of result).failed⟩ := by
  cases result <;> simp [add]

/-- A count that each result adds its share to is a sum over the results. -/
theorem count_ofResults (count : Totals → Nat) (share : Except FixError FileFix → Nat)
    (hzero : count zero = 0) (hadd : ∀ t result, count (t.add result) = count t + share result)
    (results : List FileResult) :
    count (ofResults results) = (results.map fun r => share r.2).sum := by
  have hfold : ∀ t, count (results.foldl (fun t r => t.add r.2) t) =
      count t + (results.map fun r => share r.2).sum := by
    induction results with
    | nil => exact fun t => rfl
    | cons r results ih =>
      intro t
      rw [List.foldl_cons, ih, hadd, List.map_cons, List.sum_cons, Nat.add_assoc]
  rw [ofResults, hfold, hzero, Nat.zero_add]

variable (results : List FileResult)

theorem fixed_ofResults :
    (ofResults results).fixed = (results.map fun r => (of r.2).fixed).sum :=
  count_ofResults fixed _ rfl (fun t result => by rw [add_eq]) results

theorem skipped_ofResults :
    (ofResults results).skipped = (results.map fun r => (of r.2).skipped).sum :=
  count_ofResults skipped _ rfl (fun t result => by rw [add_eq]) results

theorem written_ofResults :
    (ofResults results).written = (results.map fun r => (of r.2).written).sum :=
  count_ofResults written _ rfl (fun t result => by rw [add_eq]) results

theorem failed_ofResults :
    (ofResults results).failed = results.countP fun r => !r.2.isOk := by
  rw [countP_eq_sum, count_ofResults failed _ rfl (fun t result => by rw [add_eq])]
  congr 1
  refine List.map_congr_left fun r _ => ?_
  cases r.2 <;> simp [Except.isOk, Except.toBool]

end Totals

/-! ## One file -/

/-- The number of characters in which two texts of a cell differ. -/
def textDifferences : Option String → Option String → Nat
  | some t, some t' => differences t.toList t'.toList
  | _, _ => 0

namespace RaisedBy

variable {n : Nat} {o o' : Option String} (h : RaisedBy n o o')
include h

theorem textDifferences_eq : textDifferences o o' = n := by
  obtain ⟨rfl, rfl⟩ | ⟨t, t', rfl, rfl, -, hn⟩ := h.cases
  · exact (h : n = 0).symm
  · exact hn

theorem eq_iff : o' = o ↔ n = 0 := by
  obtain ⟨rfl, rfl⟩ | ⟨t, t', rfl, rfl, hr, rfl⟩ := h.cases
  · exact iff_of_true rfl h
  · rw [differences_eq_zero hr.length_eq, String.toList_inj, Option.some.injEq, eq_comm]

theorem map_length : o'.map String.length = o.map String.length := by
  obtain ⟨rfl, rfl⟩ | ⟨t, t', rfl, rfl, hr, -⟩ := h.cases
  · rfl
  · exact congrArg some hr.length_eq.symm

end RaisedBy

section

variable {path : Path} {write : String → Except Fault Unit} {before after : Option String}
  {preview result : Except FixError FileFix}

/-- What a result adds to the totals is what was done to the cell. -/
theorem Settles.raisedBy (h : Settles path write before preview result after)
    (hok : ∀ fix, preview = .ok fix →
      before = some fix.loaded ∧ fix.persisted = false ∧ fix.Accounts) :
    RaisedBy (Totals.of result).fixed before after ∧
      (Totals.of result).written = if 0 < (Totals.of result).fixed then 1 else 0 := by
  cases h with
  | failed e => exact ⟨.refl _, rfl⟩
  | untouched fix hzero =>
    rw [Totals.of_ok, hzero, (hok fix rfl).2.1]
    exact ⟨.refl _, rfl⟩
  | written fix hc _ =>
    obtain ⟨rfl, -, haccounts⟩ := hok fix rfl
    rw [Totals.of_ok, if_pos hc]
    exact ⟨⟨haccounts.raised, haccounts.count⟩, rfl⟩
  | unwritten fix fault _ _ => exact ⟨.refl _, rfl⟩

/-- A preview counts what the fix does, unless the fix cannot be written. -/
theorem Settles.of_preview (h : Settles path write before preview result after)
    (hw : isUnwritten result = false) :
    (Totals.of preview).fixed = (Totals.of result).fixed ∧
      (Totals.of preview).skipped = (Totals.of result).skipped := by
  cases h with
  | failed => exact ⟨rfl, rfl⟩
  | untouched => exact ⟨rfl, rfl⟩
  | written => exact ⟨rfl, rfl⟩
  | unwritten => cases hw

end

theorem FixReport.fixedCount_add_skipped (r : FixReport) :
    r.fixedCount + r.skipped.length = r.outcomes.length := by
  rw [fixedCount, skipped, ← List.countP_eq_length_filter,
    List.length_eq_countP_add_countP Outcome.isFixed]
  simp

/-- A fix of a text has an outcome for each position. -/
theorem fixText_outcomes {analyzer : Analyzer} {path : Path} {positions : PositionSet}
    {strategy : Strategy} {text : String} {fix : FileFix}
    (h : (fixText analyzer path positions strategy text).result = .ok fix) :
    fix.report.outcomes.map Outcome.position = positions.toList := by
  obtain ⟨e, -, hres⟩ | ⟨loc, -, -, ⟨-, hres⟩ | ⟨r, d, hfix, hres | ⟨-, -, _, -, hres⟩⟩⟩ :=
    fixText_cases analyzer path positions strategy text
  all_goals rw [hres] at h; cases h
  obtain ⟨rfl, -⟩ := Locator.eq_of_fix? hfix
  exact Locator.positions_attemptAll loc positions.toList

namespace Call

variable {σ κ : Type} {store : Store (StateM σ)} {cell : Path → κ} {text? : σ → κ → Option String}

/-- The report of an `ok` result is the one of the preview. -/
theorem report_of_run (hs : store.Independent cell text?) {c : Call} {s : σ} {fix : FileFix}
    (h : ((c.run store).run s).1.result = .ok fix) :
    ∃ fix', ((c.preview store).run s).1.result = .ok fix' ∧ fix'.report = fix.report := by
  cases hm : c.mode with
  | check =>
    rw [run, hm] at h
    exact ⟨fix, h, rfl⟩
  | apply =>
    have hsettles := run_settles hs c hm s
    rw [h] at hsettles
    generalize text? ((c.run store).run s).2 (cell c.path) = after at hsettles
    generalize ((c.preview store).run s).1.result = preview at hsettles
    cases hsettles with
    | untouched => exact ⟨fix, rfl, rfl⟩
    | written fix' => exact ⟨fix', rfl, rfl⟩

/-- A run that does not fail counts each of its positions, and one that fails counts none. -/
theorem of_run_positions (hs : store.Independent cell text?) (c : Call) (s : σ) :
    (Totals.of ((c.run store).run s).1.result).fixed +
        (Totals.of ((c.run store).run s).1.result).skipped =
      if ((c.run store).run s).1.result.isOk then c.positions.size else 0 := by
  cases hresult : ((c.run store).run s).1.result with
  | error e => rfl
  | ok fix =>
    obtain ⟨fix', hpreview, hreport⟩ := report_of_run hs hresult
    have hpositions := congrArg List.length (fixText_outcomes (preview_eq_ok hpreview).2.2)
    rw [List.length_map, hreport, ← FixReport.fixedCount_add_skipped] at hpositions
    rw [Totals.of_ok]
    exact hpositions

theorem written_of_preview (hs : store.Lawful cell text?) (c : Call) (s : σ) :
    (Totals.of ((c.preview store).run s).1.result).written = 0 := by
  cases hresult : ((c.preview store).run s).1.result with
  | error e => rfl
  | ok fix =>
    rw [Totals.of_ok, (preview_ok hs hresult).2.1]
    rfl

end Call

/-! ## All files -/

/-- The totals count what is different between the texts before and after. No cell is filled or
emptied, and no text gets longer or shorter. -/
structure Totals.Counts {κ : Type} (t : Totals) (before after : κ → Option String) : Prop where
  lengths : ∀ k, (after k).map String.length = (before k).map String.length
  changed : ∃ changed : List κ, changed.Nodup ∧ (∀ k, k ∈ changed ↔ after k ≠ before k) ∧
    changed.length = t.written ∧
    (changed.map fun k => textDifferences (before k) (after k)).sum = t.fixed

/-- If each share is what was done to a cell of its own, and nothing was done to other cells, the sum
of the shares counts what was done to all of them. -/
theorem Totals.counts_of_shares {α κ : Type} {l : List α} {place : α → κ} {share : α → Totals}
    {t : Totals} {before after : κ → Option String}
    (hplaces : l.Pairwise fun a b => place a ≠ place b)
    (hraised : ∀ a ∈ l, RaisedBy (share a).fixed (before (place a)) (after (place a)) ∧
      (share a).written = if 0 < (share a).fixed then 1 else 0)
    (hother : ∀ k, (∀ a ∈ l, place a ≠ k) → after k = before k)
    (hfixed : t.fixed = (l.map fun a => (share a).fixed).sum)
    (hwritten : t.written = (l.map fun a => (share a).written).sum) : t.Counts before after := by
  constructor
  case lengths =>
    intro k
    by_cases hk : ∃ a ∈ l, place a = k
    · obtain ⟨a, ha, rfl⟩ := hk
      exact (hraised a ha).1.map_length
    · rw [hother k fun a ha h => hk ⟨a, ha, h⟩]
  case changed =>
    refine ⟨(l.filter fun a => 0 < (share a).fixed).map place, ?_, fun k => ?_, ?_, ?_⟩
    · exact List.pairwise_map.2 (hplaces.filter _)
    · simp only [List.mem_map, List.mem_filter, decide_eq_true_iff]
      constructor
      · rintro ⟨a, ⟨ha, hpos⟩, rfl⟩ hsame
        have hzero := (hraised a ha).1.eq_iff.1 hsame
        omega
      · intro hne
        by_contra hnone
        refine hne (hother k ?_)
        rintro a ha rfl
        have hzero : ¬ 0 < (share a).fixed := fun hpos => hnone ⟨a, ⟨ha, hpos⟩, rfl⟩
        exact hne ((hraised a ha).1.eq_iff.2 (by omega))
    · rw [List.length_map, ← List.countP_eq_length_filter, countP_eq_sum, hwritten]
      congr 1
      refine List.map_congr_left fun a ha => ?_
      rw [(hraised a ha).2]
      simp only [decide_eq_true_iff]
    · rw [hfixed, ← sum_map_filter_pos fun a => (share a).fixed, List.map_map]
      congr 1
      exact List.map_congr_left fun a ha =>
        (hraised a (List.mem_of_mem_filter ha)).1.textDifferences_eq

section

variable {σ κ : Type} {store : Store (StateM σ)} {cell : Path → κ} {text? : σ → κ → Option String}
  (analyzer : Analyzer) (strategy : Strategy) {groups : Groups}
  (hs : store.Independent cell text?) (hcells : groups.Pairwise fun g g' => cell g.1 ≠ cell g'.1)
  (s : σ)
include hs hcells

theorem positions_runGroups (mode : Mode) :
    (Totals.ofResults ((runGroups mode analyzer strategy store groups).run s).1.results).fixed +
        (Totals.ofResults ((runGroups mode analyzer strategy store groups).run s).1.results).skipped =
      (List.zipWith (fun g result => if result.2.isOk then g.2.size else 0) groups
        ((runGroups mode analyzer strategy store groups).run s).1.results).sum := by
  have hsum := Totals.count_ofResults (fun t => t.fixed + t.skipped)
    (fun result => (Totals.of result).fixed + (Totals.of result).skipped) rfl
    (fun t result => by rw [Totals.add_eq, Nat.add_add_add_comm])
  rw [hsum, results_runGroups mode analyzer strategy hs hcells s, List.map_map,
    List.zipWith_map_right, List.zipWith_self]
  congr 1
  exact List.map_congr_left fun g _ =>
    Call.of_run_positions hs (groupCall mode analyzer strategy g) s

theorem counts_runGroups :
    (Totals.ofResults ((runGroups .apply analyzer strategy store groups).run s).1.results).Counts
      (text? s) (text? ((runGroups .apply analyzer strategy store groups).run s).2) := by
  have hother : ∀ k, (∀ g ∈ groups, cell g.1 ≠ k) → _ := fun k hk =>
    text_runGroups_other .apply analyzer strategy hs.toLawful hk s
  have hraised := fun g hg =>
    (settles_runGroups analyzer strategy hs hcells s g hg).raisedBy fun fix hfix =>
      Call.preview_ok hs.toLawful (c := groupCall .check analyzer strategy g) hfix
  refine Totals.counts_of_shares hcells hraised hother ?_ ?_
  · rw [Totals.fixed_ofResults, results_runGroups .apply analyzer strategy hs hcells s,
      List.map_map]
    rfl
  · rw [Totals.written_ofResults, results_runGroups .apply analyzer strategy hs hcells s,
      List.map_map]
    rfl

theorem written_runGroups_check :
    (Totals.ofResults
      ((runGroups .check analyzer strategy store groups).run s).1.results).written = 0 := by
  rw [Totals.written_ofResults, results_runGroups .check analyzer strategy hs hcells s,
    List.map_map, List.sum_eq_zero_iff_forall_eq_nat, List.forall_mem_map]
  exact fun g _ => Call.written_of_preview hs.toLawful (groupCall .check analyzer strategy g) s

/-- A check counts what an application counts that writes all it has to. -/
theorem counts_runGroups_check
    (hw : ∀ result ∈ ((runGroups .apply analyzer strategy store groups).run s).1.results,
      isUnwritten result.2 = false) :
    (Totals.ofResults ((runGroups .check analyzer strategy store groups).run s).1.results).fixed =
        (Totals.ofResults
          ((runGroups .apply analyzer strategy store groups).run s).1.results).fixed ∧
      (Totals.ofResults ((runGroups .check analyzer strategy store groups).run s).1.results).skipped =
        (Totals.ofResults
          ((runGroups .apply analyzer strategy store groups).run s).1.results).skipped := by
  rw [results_runGroups .apply analyzer strategy hs hcells s] at hw ⊢
  rw [results_runGroups .check analyzer strategy hs hcells s]
  have hof := fun g hg => (settles_runGroups analyzer strategy hs hcells s g hg).of_preview
    (hw _ (List.mem_map_of_mem hg))
  simp only [Totals.fixed_ofResults, Totals.skipped_ofResults, List.map_map]
  constructor
  · congr 1
    exact List.map_congr_left fun g hg => (hof g hg).1
  · congr 1
    exact List.map_congr_left fun g hg => (hof g hg).2

end

/-! ## The command -/

namespace Cli

theorem exists_out_applyReply (style : Style) (o : ApplyOptions) (workspace : Path)
    (r : ViolationReport) (results : List FileResult) :
    ∃ head, (applyReply style o workspace r results).out =
      head ++ summaryText style (.ofResults results) := ⟨_, rfl⟩

section

variable {σ κ : Type} (host : Host (StateM σ)) (text? : σ → κ → Option String) (env : Environment)
  (o : ApplyOptions) (r : ViolationReport) (s : σ)

/-- The results of the files of a report. -/
def applyResults : List FileResult :=
  r.resultsFrom env.analyzer (workspaceOf o) host.store s (if o.dryRun then .check else .apply)

def applyTotals : Totals := .ofResults (applyResults host env o r s)

/-- What the summary says of a run, of the texts that were stored before it, and of the real run, which
is another one if this run is dry. The files are gone through from the state `s` on. -/
structure SummaryHolds (before : κ → Option String) (run real : Reply × σ) : Prop where
  printed : ∃ head, run.1.out = head ++ summaryText ⟨env.coloured⟩ (applyTotals host env o r s)
  exit_eq : run.1.exit = if 0 < (applyTotals host env o r s).failed then 1 else 0
  paths : (applyResults host env o r s).map Prod.fst = (r.groups (workspaceOf o)).map Prod.fst
  failed : (applyTotals host env o r s).failed =
    (applyResults host env o r s).countP fun result => !result.2.isOk
  positions : (applyTotals host env o r s).fixed + (applyTotals host env o r s).skipped =
    (List.zipWith (fun g result => if result.2.isOk then g.2.size else 0)
      (r.groups (workspaceOf o)) (applyResults host env o r s)).sum
  changes : o.dryRun = false → (applyTotals host env o r s).Counts before (text? run.2)
  dry_keeps : o.dryRun = true → text? run.2 = before ∧ (applyTotals host env o r s).written = 0
  /-- The real run shows the same numbers of fixes and of positions that are skipped. -/
  dry_foretells : o.dryRun = true →
    (∀ result ∈ applyResults host env { o with dryRun := false } r s,
      isUnwritten result.2 = false) →
    ∃ head written failed, real.1.out = head ++ summaryText ⟨env.coloured⟩
      ⟨(applyTotals host env o r s).fixed, (applyTotals host env o r s).skipped, written, failed⟩

variable {host o r s} (filter : Log.Filter)

theorem run_applyReport :
    let run := (r.run (if o.dryRun then .check else .apply) env.analyzer (workspaceOf o)
      host.store).run s
    (applyReport host env filter o r).run s =
      ((applyReply ⟨env.coloured⟩ o (workspaceOf o) r run.1.results).logged filter run.1.events,
        run.2) := rfl

/-- Whatever report is applied. -/
theorem summaryHolds_applyReport {cell : Path → κ} (hs : host.store.Independent cell text?)
    (hcell : ∀ p q : Path, p.components ≠ q.components → cell p ≠ cell q) :
    SummaryHolds host text? env o r s (text? s) ((applyReport host env filter o r).run s)
      ((applyReport host env filter { o with dryRun := false } r).run s) := by
  have hcells : (r.groups (workspaceOf o)).Pairwise fun g g' => cell g.1 ≠ cell g'.1 :=
    (r.groups_components_ne (workspaceOf o)).imp (hcell _ _)
  constructor
  case printed => exact exists_out_applyReply _ o _ r _
  case exit_eq => rfl
  case paths =>
    have hresults : applyResults host env o r s = _ :=
      results_runGroups _ env.analyzer r.metadata.strategy hs hcells _
    rw [hresults, List.map_map]
    rfl
  case failed => exact Totals.failed_ofResults _
  case positions => exact positions_runGroups env.analyzer r.metadata.strategy hs hcells _ _
  case changes =>
    intro hreal
    rw [run_applyReport, applyTotals, applyResults, hreal]
    exact counts_runGroups env.analyzer r.metadata.strategy hs hcells _
  case dry_keeps =>
    intro hdry
    rw [run_applyReport, applyTotals, applyResults, hdry]
    exact ⟨text_runGroups_check env.analyzer r.metadata.strategy hs.toLawful _ _,
      written_runGroups_check env.analyzer r.metadata.strategy hs hcells _⟩
  case dry_foretells =>
    intro hdry hw
    have hcounts : (applyTotals host env o r s).fixed =
          (applyTotals host env { o with dryRun := false } r s).fixed ∧
        (applyTotals host env o r s).skipped =
          (applyTotals host env { o with dryRun := false } r s).skipped := by
      rw [applyTotals, applyResults, hdry]
      exact counts_runGroups_check env.analyzer r.metadata.strategy hs hcells _ hw
    rw [hcounts.1, hcounts.2]
    obtain ⟨head, hout⟩ := exists_out_applyReply _ _ _ r _
    exact ⟨head, _, _, hout⟩

theorem run_runApply {start : σ} {text : String}
    (hread : (host.store.load o.report).run start = (.ok text, s))
    (hload : ViolationReport.load (some o.report) text = .ok r) :
    (runApply host env filter o).run start = (applyReport host env filter o r).run s := by
  unfold runApply
  rw [run_bind_state, hread]
  simp only [hload]

end

end Cli

/-- **The summary of an application is true,** whatever cannot be loaded or written. This is so for every
report, and for the command, which loads its report first. -/
theorem Cli.summary_holds {σ κ : Type} (host : Host (StateM σ)) (cell : Path → κ)
    (text? : σ → κ → Option String) (hs : host.store.Independent cell text?)
    (hcell : ∀ p q : Path, p.components ≠ q.components → cell p ≠ cell q) (env : Environment)
    (filter : Log.Filter) (o : ApplyOptions) (r : ViolationReport) (s : σ) :
    SummaryHolds host text? env o r s (text? s) ((applyReport host env filter o r).run s)
      ((applyReport host env filter { o with dryRun := false } r).run s) ∧
    ∀ start text, (host.store.load o.report).run start = (.ok text, s) →
      ViolationReport.load (some o.report) text = .ok r →
      SummaryHolds host text? env o r s (text? start) ((runApply host env filter o).run start)
        ((runApply host env filter { o with dryRun := false }).run start) := by
  have hholds := summaryHolds_applyReport text? env (o := o) (r := r) (s := s) filter hs hcell
  refine ⟨hholds, fun start text hread hload => ?_⟩
  have hkeeps : text? s = text? start := by
    have hkept := hs.load_keeps o.report start
    rwa [hread] at hkept
  rw [run_runApply env filter hread hload,
    run_runApply (o := { o with dryRun := false }) env filter hread hload, ← hkeeps]
  exact hholds

/-- Positions in two files, and in one that is not there. -/
def Sample.applyText : String :=
  "violations = [['A.java', 1, 7], ['B.java', 1, 7], ['C.java', 1, 1], ['A.java', 2, 1]]
[meta]
workspace_relative = true
"

def Sample.applyReport : ViolationReport :=
  ⟨{ workspaceRelative := true },
    [⟨"A.java", 1, 7⟩, ⟨"B.java", 1, 7⟩, ⟨"C.java", 1, 1⟩, ⟨"A.java", 2, 1⟩]⟩

def Sample.applyMemory (readOnly : List Path) : Memory :=
  ⟨[(⟨"R.toml"⟩, applyText), (⟨"src/A.java"⟩, "x = 12l;"), (⟨"src/B.java"⟩, "y = 34l;")], [],
    readOnly, []⟩

def Sample.host : Host (StateM Memory) := ⟨Memory.medium.store, fun _ => pure []⟩

def Sample.environment : Cli.Environment := ⟨Java.analyzer, none, false⟩

def Sample.applyOptions (dryRun : Bool) : Cli.ApplyOptions :=
  ⟨⟨"R.toml"⟩, some ⟨"src"⟩, dryRun, false⟩

theorem Sample.report_applyOptions (dryRun : Bool) : (applyOptions dryRun).report = ⟨"R.toml"⟩ := rfl

/-- Where a file cannot be written the two modes count differently, and where all files can they
agree. -/
theorem Cli.summary_holds_memory :
    Sample.host.store.Independent Path.components Memory.text? ∧
      ViolationReport.load (some ⟨"R.toml"⟩) Sample.applyText = .ok Sample.applyReport ∧
      (∀ readOnly ∈ [[⟨"src/B.java"⟩], []], ∀ dryRun,
        let memory := Sample.applyMemory readOnly
        let command (dryRun : Bool) :=
          (runApply Sample.host Sample.environment [] (Sample.applyOptions dryRun)).run memory
        SummaryHolds Sample.host Memory.text? Sample.environment (Sample.applyOptions dryRun)
          Sample.applyReport memory memory.text? (command dryRun) (command false)) ∧
      applyTotals Sample.host Sample.environment (Sample.applyOptions false) Sample.applyReport
        (Sample.applyMemory [⟨"src/B.java"⟩]) = ⟨1, 1, 1, 2⟩ ∧
      applyTotals Sample.host Sample.environment (Sample.applyOptions true) Sample.applyReport
        (Sample.applyMemory [⟨"src/B.java"⟩]) = ⟨2, 1, 0, 1⟩ ∧
      (∀ result ∈ applyResults Sample.host Sample.environment (Sample.applyOptions false)
        Sample.applyReport (Sample.applyMemory []), isUnwritten result.2 = false) ∧
      applyTotals Sample.host Sample.environment (Sample.applyOptions false) Sample.applyReport
        (Sample.applyMemory []) = ⟨2, 1, 2, 1⟩ := by
  have hs : Sample.host.store.Independent Path.components Memory.text? := Memory.independent_store
  have hread : ∀ readOnly ∈ [[⟨"src/B.java"⟩], []],
      ((Sample.host.store.load ⟨"R.toml"⟩).run (Sample.applyMemory readOnly)).1 =
        .ok Sample.applyText := by decide +kernel
  have hload : ViolationReport.load (some ⟨"R.toml"⟩) Sample.applyText = .ok Sample.applyReport :=
    eq_ok_of_toOption (by decide +kernel)
  refine ⟨hs, hload, fun readOnly hmem dryRun => ?_, by decide +kernel, by decide +kernel,
    by decide +kernel, by decide +kernel⟩
  have hloads : (Sample.host.store.load (Sample.applyOptions dryRun).report).run
      (Sample.applyMemory readOnly) = (.ok Sample.applyText, Sample.applyMemory readOnly) := by
    rw [Sample.report_applyOptions]
    exact Prod.ext (hread readOnly hmem) rfl
  exact (summary_holds Sample.host Path.components Memory.text? hs (fun _ _ h => h)
    Sample.environment [] (Sample.applyOptions dryRun) Sample.applyReport
    (Sample.applyMemory readOnly)).2 _ Sample.applyText hloads
    (by rw [Sample.report_applyOptions, hload])

end LongSuffix
