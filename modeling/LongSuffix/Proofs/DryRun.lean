import LongSuffix.Proofs.FileRuns
import LongSuffix.Proofs.Groups

/-!
# Checking before applying

A check of a report runs its files on a store that stays as it is, while an application changes the
store from file to file. Over an independent store the two agree all the same: what becomes of a
file is decided by its own cell, and no two files of a report share one. So the result of a check
tells what an application does, up to the writes that fail
(`ViolationReport.check_foretells_apply`).
-/

namespace LongSuffix

/-- What a fix comes to, given what the store says to writing the file, the text in its cell, and
the result of the preview: a result, and the text in the cell afterwards. -/
inductive Settles (path : Path) (write : String → Except Fault Unit) (before : Option String) :
    Except FixError FileFix → Except FixError FileFix → Option String → Prop where
  | failed (e : FixError) : Settles path write before (.error e) (.error e) before
  | untouched (fix : FileFix) (h : fix.report.fixedCount = 0) :
    Settles path write before (.ok fix) (.ok fix) before
  | written (fix : FileFix) (h : 0 < fix.report.fixedCount) (hw : write fix.updated = .ok ()) :
    Settles path write before (.ok fix) (.ok { fix with persisted := true }) (some fix.updated)
  | unwritten (fix : FileFix) (fault : Fault) (h : 0 < fix.report.fixedCount)
    (hw : write fix.updated = .error fault) :
    Settles path write before (.ok fix) (.error (.unwritable path fault)) before

/-- The text in the cell has no part in the result. -/
theorem Settles.result_eq {path : Path} {write : String → Except Fault Unit}
    {before before' after after' : Option String} {preview result result' : Except FixError FileFix}
    (h : Settles path write before preview result after)
    (h' : Settles path write before' preview result' after') : result = result' := by
  cases h with
  | failed => cases h'; rfl
  | untouched fix hz =>
    cases h' with
    | untouched => rfl
    | written _ hc => omega
    | unwritten _ _ hc => omega
  | written fix hc hw =>
    cases h' with
    | untouched _ hz => omega
    | written => rfl
    | unwritten _ _ _ hw' => rw [hw] at hw'; cases hw'
  | unwritten fix fault hc hw =>
    cases h' with
    | untouched _ hz => omega
    | written _ _ hw' => rw [hw] at hw'; cases hw'
    | unwritten _ _ _ hw' => rw [hw] at hw'; cases hw'; rfl

/-! ## One file -/

namespace Call

variable {σ κ : Type} {store : Store (StateM σ)} {cell : Path → κ}
  {text? : σ → κ → Option String}

/-- A preview loads the file or does nothing. -/
theorem state_preview (store : Store (StateM σ)) (c : Call) (s : σ) :
    ((c.preview store).run s).2 = s ∨
      ((c.preview store).run s).2 = ((store.load c.path).run s).2 := by
  rw [preview, run_previewFile]
  split
  · exact .inl rfl
  · exact .inr rfl

theorem result_preview_congr (c : Call) {s t : σ}
    (h : store.answers c.path s = store.answers c.path t) :
    ((c.preview store).run s).1.result = ((c.preview store).run t).1.result := by
  have hload : ((store.load c.path).run s).1 = ((store.load c.path).run t).1 :=
    (Prod.mk.inj h).1
  rw [preview, run_previewFile, run_previewFile, hload]
  split <;> rfl

theorem preview_answers (hs : store.Independent cell text?) (c : Call) (s : σ) (q : Path) :
    store.answers q ((c.preview store).run s).2 = store.answers q s := by
  obtain hsame | hload := c.state_preview store s
  · rw [hsame]
  · rw [hload, hs.load_answers]

/-- A run ends where its preview does, or after a write to its path. -/
theorem state_run (store : Store (StateM σ)) (c : Call) (s : σ) :
    ((c.run store).run s).2 = ((c.preview store).run s).2 ∨
      ∃ text, ((c.run store).run s).2 =
        ((store.persist c.path text).run ((c.preview store).run s).2).2 := by
  obtain ⟨mode, analyzer, path, positions, strategy⟩ := c
  cases mode with
  | check => exact .inl rfl
  | apply =>
    simp only [run, Mode.run, preview]
    rcases hp : (previewFile analyzer path positions strategy store).run s with
      ⟨⟨events, e | fix⟩, s'⟩
    · rw [run_fixFile_of_error hp]
      exact .inl rfl
    · cases hc : fix.report.changed with
      | false =>
        rw [run_fixFile_of_unchanged hp hc]
        exact .inl rfl
      | true =>
        refine .inr ⟨fix.updated, ?_⟩
        rcases hw : (store.persist path fix.updated).run s' with ⟨fault | _, s''⟩
        · rw [run_fixFile_of_unwritten hp hc hw]
        · rw [run_fixFile_of_written hp hc hw]

/-- A run changes no answer about another cell. -/
theorem run_answers (hs : store.Independent cell text?) (c : Call) (s : σ) {q : Path}
    (hq : cell q ≠ cell c.path) :
    store.answers q ((c.run store).run s).2 = store.answers q s := by
  obtain hsame | ⟨text, hpersist⟩ := c.state_run store s
  · rw [hsame, preview_answers hs]
  · rw [hpersist, hs.persist_answers _ _ _ _ hq, preview_answers hs]

theorem run_text_other (hs : store.Lawful cell text?) (c : Call) (s : σ) {k : κ}
    (hk : cell c.path ≠ k) : text? ((c.run store).run s).2 k = text? s k := by
  obtain ⟨hkeeps, -⟩ | ⟨-, fix, -, -, -, -, -, -, hthere⟩ := run_cases hs c s
  · rw [hkeeps]
  · exact hthere k (Ne.symm hk)

theorem run_settles (hs : store.Independent cell text?) (c : Call) (hm : c.mode = .apply) (s : σ) :
    Settles c.path (store.answers c.path s).2 (text? s (cell c.path))
      ((c.preview store).run s).1.result ((c.run store).run s).1.result
      (text? ((c.run store).run s).2 (cell c.path)) := by
  have hkeeps := preview_keeps hs.toLawful c s
  have hanswers := preview_answers hs c s c.path
  obtain ⟨mode, analyzer, path, positions, strategy⟩ := c
  cases hm
  simp only [run, Mode.run, preview] at hkeeps hanswers ⊢
  rcases hp : (previewFile analyzer path positions strategy store).run s with
    ⟨⟨events, e | fix⟩, s'⟩
  · rw [hp] at hkeeps
    rw [run_fixFile_of_error hp, hkeeps]
    exact .failed e
  · rw [hp] at hkeeps hanswers
    have hwrite : ((store.persist path fix.updated).run s').1 =
        (store.answers path s).2 fix.updated := by rw [← hanswers]; rfl
    by_cases hc : 0 < fix.report.fixedCount
    · rcases hw : (store.persist path fix.updated).run s' with ⟨fault | _, s''⟩
      · rw [run_fixFile_of_unwritten hp (FixReport.changed_iff.2 hc) hw]
        have hsame := hs.persist_error path fix.updated s' fault (by rw [hw])
        rw [hw] at hsame hwrite
        rw [hsame, hkeeps]
        exact .unwritten fix fault hc hwrite.symm
      · rw [run_fixFile_of_written hp (FixReport.changed_iff.2 hc) hw]
        have hhere := hs.persist_here path fix.updated s' (by rw [hw])
        rw [hw] at hhere hwrite
        rw [hhere]
        exact .written fix hc hwrite.symm
    · have hzero : fix.report.fixedCount = 0 := by omega
      rw [run_fixFile_of_unchanged hp (by simp [FixReport.changed, hzero]), hkeeps]
      exact .untouched fix hzero

/-- What becomes of a file depends on what the store has to say about it, and on nothing else. -/
theorem result_run_congr (hs : store.Independent cell text?) (c : Call) {s t : σ}
    (h : store.answers c.path s = store.answers c.path t) :
    ((c.run store).run s).1.result = ((c.run store).run t).1.result := by
  have hpreview := c.result_preview_congr h
  cases hm : c.mode with
  | check =>
    have hrun : c.run store = c.preview store := by rw [run, hm]; rfl
    rw [hrun]
    exact hpreview
  | apply =>
    have hsettles := run_settles hs c hm s
    rw [h, hpreview] at hsettles
    exact hsettles.result_eq (run_settles hs c hm t)

end Call

/-! ## The files of a report -/

section

variable {σ κ : Type} {store : Store (StateM σ)} {cell : Path → κ} {text? : σ → κ → Option String}
  (mode : Mode) (analyzer : Analyzer) (strategy : Strategy)

/-- The run on the file of a group. -/
def groupCall (g : Path × PositionSet) : Call := ⟨mode, analyzer, g.1, g.2, strategy⟩

theorem run_runGroups_cons (g : Path × PositionSet) (groups : Groups) (s : σ) :
    let first := ((groupCall mode analyzer strategy g).run store).run s
    let rest := (runGroups mode analyzer strategy store groups).run first.2
    ((runGroups mode analyzer strategy store (g :: groups)).run s).1.results =
        (g.1, first.1.result) :: rest.1.results ∧
      ((runGroups mode analyzer strategy store (g :: groups)).run s).2 = rest.2 := ⟨rfl, rfl⟩

/-- The files before it leave the result of a file as it is. -/
theorem results_runGroups (hs : store.Independent cell text?) {groups : Groups}
    (hcells : groups.Pairwise fun g g' => cell g.1 ≠ cell g'.1) (s : σ) :
    ((runGroups mode analyzer strategy store groups).run s).1.results =
      groups.map fun g =>
        (g.1, (((groupCall mode analyzer strategy g).run store).run s).1.result) := by
  induction groups generalizing s with
  | nil => rfl
  | cons g groups ih =>
    obtain ⟨hg, hcells⟩ := List.pairwise_cons.1 hcells
    rw [(run_runGroups_cons mode analyzer strategy g groups s).1, ih hcells, List.map_cons]
    congr 1
    refine List.map_congr_left fun g' hg' => ?_
    rw [Call.result_run_congr hs]
    exact Call.run_answers hs (groupCall mode analyzer strategy g) s (Ne.symm (hg g' hg'))

theorem text_runGroups_other (hs : store.Lawful cell text?) {groups : Groups} {k : κ}
    (hk : ∀ g ∈ groups, cell g.1 ≠ k) (s : σ) :
    text? ((runGroups mode analyzer strategy store groups).run s).2 k = text? s k := by
  induction groups generalizing s with
  | nil => rfl
  | cons g groups ih =>
    rw [(run_runGroups_cons mode analyzer strategy g groups s).2,
      ih fun g' hg' => hk g' (List.mem_cons_of_mem _ hg')]
    exact Call.run_text_other hs _ s (hk g List.mem_cons_self)

theorem text_runGroups_check (hs : store.Lawful cell text?) (groups : Groups) (s : σ) :
    text? ((runGroups .check analyzer strategy store groups).run s).2 = text? s := by
  induction groups generalizing s with
  | nil => rfl
  | cons g groups ih =>
    rw [(run_runGroups_cons .check analyzer strategy g groups s).2, ih]
    exact Call.preview_keeps hs (groupCall .check analyzer strategy g) s

/-- An application settles each file as if it was the only one. -/
theorem settles_runGroups (hs : store.Independent cell text?) {groups : Groups}
    (hcells : groups.Pairwise fun g g' => cell g.1 ≠ cell g'.1) (s : σ) :
    ∀ g ∈ groups, Settles g.1 (store.answers g.1 s).2 (text? s (cell g.1))
      (((groupCall .check analyzer strategy g).run store).run s).1.result
      (((groupCall .apply analyzer strategy g).run store).run s).1.result
      (text? ((runGroups .apply analyzer strategy store groups).run s).2 (cell g.1)) := by
  induction groups generalizing s with
  | nil => intro g hg; cases hg
  | cons g groups ih =>
    obtain ⟨hg, hcells⟩ := List.pairwise_cons.1 hcells
    rw [(run_runGroups_cons .apply analyzer strategy g groups s).2]
    intro g' hg'
    rcases List.mem_cons.1 hg' with rfl | hg'
    · rw [text_runGroups_other .apply analyzer strategy hs.toLawful fun g hg' => Ne.symm (hg g hg')]
      exact Call.run_settles hs (groupCall .apply analyzer strategy g') rfl s
    · -- the first file has changed nothing that concerns this one
      have hne := hg g' hg'
      have hanswers : store.answers g'.1 _ = _ :=
        Call.run_answers hs (groupCall .apply analyzer strategy g) s (Ne.symm hne)
      have hsettles := ih hcells (((groupCall .apply analyzer strategy g).run store).run s).2 g' hg'
      rw [hanswers, Call.run_text_other hs.toLawful (groupCall .apply analyzer strategy g) s hne,
        Call.result_run_congr hs (groupCall .check analyzer strategy g') hanswers,
        Call.result_run_congr hs (groupCall .apply analyzer strategy g') hanswers] at hsettles
      exact hsettles

end

/-! ## Checks and applications -/

section

variable {σ κ : Type} (r : ViolationReport) (analyzer : Analyzer) (workspace : Path)
  (store : Store (StateM σ)) (cell : Path → κ) (text? : σ → κ → Option String) (s : σ)

/-- The results of a report that is run from a state. -/
def ViolationReport.resultsFrom (mode : Mode) : List FileResult :=
  ((r.run mode analyzer workspace store).run s).1.results

/-- A check of a report tells what its application does to a store. -/
structure ViolationReport.Foretells : Prop where
  check_keeps : text? ((r.run .check analyzer workspace store).run s).2 = text? s
  paths : ∀ mode, (r.resultsFrom analyzer workspace store s mode).map Prod.fst =
    (r.groups workspace).map Prod.fst
  settles : List.Forall₂
    (fun checked applied => checked.1 = applied.1 ∧
      Settles checked.1 (store.answers checked.1 s).2 (text? s (cell checked.1)) checked.2 applied.2
        (text? ((r.run .apply analyzer workspace store).run s).2 (cell checked.1)))
    (r.resultsFrom analyzer workspace store s .check)
    (r.resultsFrom analyzer workspace store s .apply)
  others_kept : ∀ k, (∀ g ∈ r.groups workspace, cell g.1 ≠ k) →
    text? ((r.run .apply analyzer workspace store).run s).2 k = text? s k
  /-- A store may differ from this one in all that it holds and in all that fails: where it says the
  same about a file, the file has the same result. -/
  own_cell : ∀ (mode : Mode) (t : σ) (i : Nat) (g : Path × PositionSet),
    (r.groups workspace)[i]? = some g → store.answers g.1 t = store.answers g.1 s →
      (r.resultsFrom analyzer workspace store t mode)[i]? =
        (r.resultsFrom analyzer workspace store s mode)[i]?

end

/-- **A dry run tells what the real one does.** Cells are told apart by the components of paths at
least, and any of them may fail to be loaded or written. -/
theorem ViolationReport.check_foretells_apply {σ κ : Type} (store : Store (StateM σ))
    (cell : Path → κ) (text? : σ → κ → Option String) (hs : store.Independent cell text?)
    (hcell : ∀ p q : Path, p.components ≠ q.components → cell p ≠ cell q)
    (r : ViolationReport) (analyzer : Analyzer) (workspace : Path) (s : σ) :
    r.Foretells analyzer workspace store cell text? s := by
  have hcells : (r.groups workspace).Pairwise fun g g' => cell g.1 ≠ cell g'.1 :=
    (r.groups_components_ne workspace).imp (hcell _ _)
  have hresults : ∀ mode t, r.resultsFrom analyzer workspace store t mode = _ := fun mode t =>
    results_runGroups mode analyzer r.metadata.strategy hs hcells t
  constructor
  case check_keeps => exact text_runGroups_check analyzer r.metadata.strategy hs.toLawful _ s
  case paths =>
    intro mode
    rw [hresults, List.map_map]
    rfl
  case settles =>
    rw [hresults, hresults, List.forall₂_map_left_iff, List.forall₂_map_right_iff,
      List.forall₂_same]
    exact fun g hg => ⟨rfl, settles_runGroups analyzer r.metadata.strategy hs hcells s g hg⟩
  case others_kept =>
    exact fun k hk => text_runGroups_other .apply analyzer r.metadata.strategy hs.toLawful hk s
  case own_cell =>
    intro mode t i g hg hanswers
    have hsame :=
      Call.result_run_congr hs (groupCall mode analyzer r.metadata.strategy g) hanswers
    rw [hresults, hresults, List.getElem?_map, List.getElem?_map, hg, Option.map_some,
      Option.map_some, hsame]

/-- A file that is named twice, one that cannot be written, and one that is not there. -/
def Sample.report : ViolationReport :=
  ⟨{ strategy := .range }, [⟨"B.java", 1, 7⟩, ⟨"A.java", 1, 9⟩, ⟨"C.java", 1, 1⟩,
    ⟨"./A.java", 1, 7⟩, ⟨"A.java/", 1, 7⟩]⟩

theorem ViolationReport.check_foretells_apply_memory :
    Memory.medium.store.Independent Path.components Memory.text? ∧
      Sample.report.Foretells Java.analyzer ⟨"src"⟩ Memory.medium.store Path.components Memory.text?
        Sample.memory :=
  ⟨Memory.independent_store, check_foretells_apply _ _ _ Memory.independent_store
    (fun _ _ h => h) Sample.report Java.analyzer ⟨"src"⟩ Sample.memory⟩

end LongSuffix
