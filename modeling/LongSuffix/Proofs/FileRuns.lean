import LongSuffix.Java.Parse
import LongSuffix.Proofs.Cells
import LongSuffix.Proofs.Rounds
import LongSuffix.Report.Run

/-!
# Runs on the files of a store

Any sequence of previews and fixes over a lawful store, with any failures of loading and writing and
any answers of the analyzer. A preview only loads. A fix writes at most once, and exactly when its
report has something fixed; that the report's count decides this rightly is because it counts the
differences between the two texts. Over the whole run a text only has letters raised, as many as the
fixes of its cell that were written (`fileRuns_account`).
-/

namespace LongSuffix

/-- One use of a state after the other. -/
theorem run_bind_state {σ α β : Type} (x : StateM σ α) (f : α → StateM σ β) (s : σ) :
    (x >>= f).run s = (f (x.run s).1).run (x.run s).2 := rfl

/-! ## What a fix of a text says about it -/

/-- The updated text is the loaded one with as many letters raised as the report has fixes. -/
structure FileFix.Accounts (fix : FileFix) : Prop where
  raised : List.Forall₂ Raised fix.loaded.toList fix.updated.toList
  count : differences fix.loaded.toList fix.updated.toList = fix.report.fixedCount

theorem FileFix.Accounts.loaded_eq_updated_iff {fix : FileFix} (h : fix.Accounts) :
    fix.loaded = fix.updated ↔ fix.report.fixedCount = 0 := by
  rw [← h.count, differences_eq_zero h.raised.length_eq, String.toList_inj]

theorem FixReport.changed_iff {r : FixReport} : r.changed = true ↔ 0 < r.fixedCount := by
  rw [changed, decide_eq_true_iff]

@[simp] theorem Document.chars_parse (text : String) : (Document.parse text).chars = text.toList :=
  flatMap_chars_linesOf text.toList

/-- The text that a batch leaves has letters of the text before it raised. -/
theorem Locator.raised_render_fix? {loc : Locator} {text : String} {positions : PositionSet}
    {r : FixReport} {d : Document} (h : loc.fix? (.parse text) positions = some (r, d)) :
    List.Forall₂ Raised text.toList d.render.toList := by
  simpa [Document.render] using (raises_fix? (Document.newlineFree_parse text) h).chars

section

variable (analyzer : Analyzer) (path : Path) (positions : PositionSet) (strategy : Strategy)

/-- The ways a fix of a text can go: no locator, no positions, a batch, and a batch by range whose
text is rejected. -/
theorem fixText_cases (text : String) :
    (∃ e, locatorFor analyzer path strategy text = .error e ∧
        (fixText analyzer path positions strategy text).result = .error e) ∨
      ∃ loc events, locatorFor analyzer path strategy text = .ok (loc, events) ∧
        (loc.fix? (Document.parse text) positions = none ∧
            (fixText analyzer path positions strategy text).result = .error .noPositions ∨
          ∃ r d, loc.fix? (Document.parse text) positions = some (r, d) ∧
            ((fixText analyzer path positions strategy text).result =
                .ok ⟨path, strategy, r, text, d.render, false⟩ ∨
              strategy = .range ∧ r.changed = true ∧ ∃ fault,
                analyzer.check text d.render = .error fault ∧
                  (fixText analyzer path positions strategy text).result =
                    .error (.rejected path fault))) := by
  unfold fixText
  cases locatorFor analyzer path strategy text with
  | error e => exact .inl ⟨e, rfl, rfl⟩
  | ok found =>
    obtain ⟨loc, events⟩ := found
    refine .inr ⟨loc, events, rfl, ?_⟩
    cases hfix : loc.fix? (Document.parse text) positions with
    | none => exact .inl ⟨rfl, by simp only [hfix]⟩
    | some result =>
      obtain ⟨r, d⟩ := result
      refine .inr ⟨r, d, rfl, ?_⟩
      simp only [hfix]
      split
      · next hchecked =>
        split
        · exact .inl rfl
        · next fault hfault => exact .inr ⟨hchecked.1, hchecked.2, fault, hfault, rfl⟩
      · exact .inl rfl

variable {analyzer path positions strategy} in
theorem fixText_ok {text : String} {fix : FileFix}
    (h : (fixText analyzer path positions strategy text).result = .ok fix) :
    fix.loaded = text ∧ fix.persisted = false ∧ fix.Accounts := by
  obtain ⟨e, -, hres⟩ | ⟨loc, -, -, ⟨-, hres⟩ | ⟨r, d, hfix, hres | ⟨-, -, _, -, hres⟩⟩⟩ :=
    fixText_cases analyzer path positions strategy text
  all_goals rw [hres] at h; cases h
  have hcount := (Locator.describes_fix? (Document.newlineFree_parse text) hfix).count
  exact ⟨rfl, rfl, Locator.raised_render_fix? hfix, by simpa [Document.render] using hcount⟩

/-! ## Previews and fixes as steps of a store -/

/-- What a run makes of a load. -/
def runOfLoad : Except Fault String → FileRun
  | .error .notFound => ⟨[], .error (.missingTarget path)⟩
  | .error fault => ⟨[], .error (.unreadable path fault)⟩
  | .ok text => fixText analyzer path positions strategy text

variable {σ : Type} (store : Store (StateM σ)) (s : σ)

theorem run_previewFile :
    (previewFile analyzer path positions strategy store).run s =
      if positions.isEmpty then (⟨[], .error .noPositions⟩, s)
      else (runOfLoad analyzer path positions strategy ((store.load path).run s).1,
        ((store.load path).run s).2) := by
  unfold previewFile
  split
  · rfl
  · rw [run_bind_state]
    cases (store.load path).run s with
    | mk result s' =>
      cases result with
      | ok text => rfl
      | error fault => cases fault <;> rfl

section

variable {analyzer path positions strategy store s} {events : List Log.Event} {s' s'' : σ}
  {fix : FileFix} {fault : Fault}

theorem run_fixFile_of_error {e : FixError}
    (h : (previewFile analyzer path positions strategy store).run s = (⟨events, .error e⟩, s')) :
    (fixFile analyzer path positions strategy store).run s = (⟨events, .error e⟩, s') := by
  unfold fixFile
  rw [run_bind_state, h]
  rfl

variable (h : (previewFile analyzer path positions strategy store).run s = (⟨events, .ok fix⟩, s'))
include h

theorem run_fixFile_of_unchanged (hc : fix.report.changed = false) :
    (fixFile analyzer path positions strategy store).run s =
      (⟨events ++ [FixEvent.untouched path], .ok fix⟩, s') := by
  unfold fixFile
  rw [run_bind_state, h]
  simp only [hc]
  rfl

theorem run_fixFile_of_unwritten (hc : fix.report.changed = true)
    (hw : (store.persist path fix.updated).run s' = (.error fault, s'')) :
    (fixFile analyzer path positions strategy store).run s =
      (⟨events, .error (.unwritable path fault)⟩, s'') := by
  unfold fixFile
  rw [run_bind_state, h]
  simp only [hc, if_true, run_bind_state, hw]
  rfl

theorem run_fixFile_of_written (hc : fix.report.changed = true)
    (hw : (store.persist path fix.updated).run s' = (.ok (), s'')) :
    (fixFile analyzer path positions strategy store).run s =
      (⟨events ++ [FixEvent.written path fix.report.fixedCount],
        .ok { fix with persisted := true }⟩, s'') := by
  unfold fixFile
  rw [run_bind_state, h]
  simp only [hc, if_true, run_bind_state, hw]
  rfl

end

end

/-! ## Calls -/

/-- A preview or a fix of one file. The analyzer is the call's own, so that no two calls have to get
the same tokens or the same verdict for a text. -/
structure Call where
  mode : Mode
  analyzer : Analyzer
  path : Path
  positions : PositionSet
  strategy : Strategy

namespace Call

section

variable {m : Type → Type} [Monad m] (store : Store m)

def preview (c : Call) : m FileRun :=
  previewFile c.analyzer c.path c.positions c.strategy store

def run (c : Call) : m FileRun :=
  c.mode.run c.analyzer c.path c.positions c.strategy store

def runAll : List Call → m (List FileRun)
  | [] => return []
  | c :: rest => do
    let run ← c.run store
    let runs ← runAll rest
    return run :: runs

end

variable {σ κ : Type} (store : Store (StateM σ))

/-- The writes a call has to ask for: the updated text goes to the path if the call is a fix and its
preview succeeds with something fixed. -/
def dueWrites (c : Call) (s : σ) : List Write :=
  match c.mode, ((c.preview store).run s).1.result with
  | .apply, .ok fix => if fix.report.changed then [⟨c.path, fix.updated⟩] else []
  | _, _ => []

/-- What holds of a call that starts in a state. -/
structure Behaves (text? : σ → κ → Option String) (c : Call) (s : σ) : Prop where
  /-- A preview only loads, and leaves every text as it is. -/
  preview_loads : c.mode = .check →
    ((c.run store).run s).2 = (if c.positions.isEmpty then s else ((store.load c.path).run s).2) ∧
      text? ((c.run store).run s).2 = text? s
  writes : ∀ log, (c.run store.recording).run (s, log) =
    (((c.run store).run s).1, ((c.run store).run s).2, log ++ c.dueWrites store s)
  error_keeps : ∀ e, ((c.run store).run s).1.result = .error e →
    text? ((c.run store).run s).2 = text? s
  unchanged_iff : ∀ fix, ((c.run store).run s).1.result = .ok fix →
    (fix.loaded = fix.updated ↔ fix.report.fixedCount = 0)
  persisted_iff : ∀ fix, ((c.run store).run s).1.result = .ok fix →
    (fix.persisted = true ↔ c.mode = .apply ∧ 0 < fix.report.fixedCount)

variable {store} {cell : Path → κ} {text? : σ → κ → Option String}

theorem preview_keeps (hs : store.Lawful cell text?) (c : Call) (s : σ) :
    text? ((c.preview store).run s).2 = text? s := by
  rw [preview, run_previewFile]
  split
  · rfl
  · exact hs.load_keeps c.path s

theorem preview_ok (hs : store.Lawful cell text?) {c : Call} {s : σ} {fix : FileFix}
    (h : ((c.preview store).run s).1.result = .ok fix) :
    text? s (cell c.path) = some fix.loaded ∧ fix.persisted = false ∧ fix.Accounts := by
  rw [preview, run_previewFile] at h
  split at h
  · cases h
  · unfold runOfLoad at h
    split at h
    · cases h
    · cases h
    · next text hload =>
      obtain ⟨rfl, hp, ha⟩ := fixText_ok h
      exact ⟨hs.load_ok c.path s _ hload, hp, ha⟩

/-- A call leaves the texts alone, and then an `ok` result is not persisted and has nothing fixed if
the call is a fix; or it is a fix that puts the updated text into the cell of its path. -/
theorem run_cases (hs : store.Lawful cell text?) (c : Call) (s : σ) :
    text? ((c.run store).run s).2 = text? s ∧
        (∀ fix, ((c.run store).run s).1.result = .ok fix →
          fix.Accounts ∧ fix.persisted = false ∧ (c.mode = .apply → fix.report.fixedCount = 0)) ∨
      c.mode = .apply ∧ ∃ fix, ((c.run store).run s).1.result = .ok fix ∧
        fix.Accounts ∧ fix.persisted = true ∧ 0 < fix.report.fixedCount ∧
        text? s (cell c.path) = some fix.loaded ∧
        text? ((c.run store).run s).2 (cell c.path) = some fix.updated ∧
        ∀ k ≠ cell c.path, text? ((c.run store).run s).2 k = text? s k := by
  have hkeeps := preview_keeps hs c s
  have hok : ∀ fix, ((c.preview store).run s).1.result = .ok fix → _ := fun _ => preview_ok hs
  obtain ⟨mode, analyzer, path, positions, strategy⟩ := c
  cases mode with
  | check =>
    refine .inl ⟨hkeeps, fun fix h => ⟨(hok fix h).2.2, (hok fix h).2.1, fun e => ?_⟩⟩
    cases e
  | apply =>
    simp only [run, Mode.run, preview] at hkeeps hok ⊢
    rcases hp : (previewFile analyzer path positions strategy store).run s with
      ⟨⟨events, e | fix⟩, s'⟩
    · rw [hp] at hkeeps
      rw [run_fixFile_of_error hp]
      exact .inl ⟨hkeeps, fun fix h => by cases h⟩
    · rw [hp] at hkeeps hok
      obtain ⟨hloaded, hpersisted, haccounts⟩ := hok fix rfl
      by_cases hc : 0 < fix.report.fixedCount
      · rcases hw : (store.persist path fix.updated).run s' with ⟨fault | _, s''⟩
        · rw [run_fixFile_of_unwritten hp (FixReport.changed_iff.2 hc) hw]
          have := hs.persist_error path fix.updated s' fault (by rw [hw])
          rw [hw] at this
          exact .inl ⟨this.trans hkeeps, fun fix h => by cases h⟩
        · rw [run_fixFile_of_written hp (FixReport.changed_iff.2 hc) hw]
          have hhere := hs.persist_here path fix.updated s' (by rw [hw])
          have hthere := hs.persist_there path fix.updated s' (by rw [hw])
          rw [hw] at hhere hthere
          refine .inr ⟨trivial, _, rfl, ⟨haccounts.raised, haccounts.count⟩, rfl, hc, hloaded, hhere,
            fun k hk => ?_⟩
          rw [hthere k hk, hkeeps]
      · have hzero : fix.report.fixedCount = 0 := by omega
        rw [run_fixFile_of_unchanged hp (by simp [FixReport.changed, hzero])]
        refine .inl ⟨hkeeps, fun fix' h => ?_⟩
        cases h
        exact ⟨haccounts, hpersisted, fun _ => hzero⟩

theorem run_recording (c : Call) (s : σ) (log : List Write) :
    (c.run store.recording).run (s, log) =
      (((c.run store).run s).1, ((c.run store).run s).2, log ++ c.dueWrites store s) := by
  obtain ⟨mode, analyzer, path, positions, strategy⟩ := c
  have hpreview : (previewFile analyzer path positions strategy store.recording).run (s, log) =
      (((previewFile analyzer path positions strategy store).run s).1,
        ((previewFile analyzer path positions strategy store).run s).2, log) := by
    rw [run_previewFile, run_previewFile, Store.run_load_recording]
    split <;> rfl
  cases mode with
  | check => simpa only [run, Mode.run, dueWrites, List.append_nil] using hpreview
  | apply =>
    simp only [run, Mode.run, dueWrites, preview]
    rcases hp : (previewFile analyzer path positions strategy store).run s with
      ⟨⟨events, e | fix⟩, s'⟩
    · rw [hp] at hpreview
      rw [run_fixFile_of_error hp, run_fixFile_of_error hpreview]
      simp
    · rw [hp] at hpreview
      cases hc : fix.report.changed with
      | false =>
        rw [run_fixFile_of_unchanged hp hc, run_fixFile_of_unchanged hpreview hc]
        simp [hc]
      | true =>
        have hrec := Store.run_persist_recording store path fix.updated s' log
        rcases hw : (store.persist path fix.updated).run s' with ⟨fault | _, s''⟩
        · rw [hw] at hrec
          rw [run_fixFile_of_unwritten hp hc hw,
            run_fixFile_of_unwritten hpreview hc hrec]
          simp [hc]
        · rw [hw] at hrec
          rw [run_fixFile_of_written hp hc hw,
            run_fixFile_of_written hpreview hc hrec]
          simp [hc]

theorem behaves (hs : store.Lawful cell text?) (c : Call) (s : σ) : c.Behaves store text? s where
  preview_loads hm := by
    have hkeeps := preview_keeps hs c s
    have hrun : c.run store = c.preview store := by rw [run, hm]; rfl
    rw [hrun]
    refine ⟨?_, hkeeps⟩
    rw [preview, run_previewFile]
    split <;> rfl
  writes := run_recording c s
  error_keeps e h := by
    obtain ⟨hkeeps, -⟩ | ⟨-, fix, hfix, -⟩ := run_cases hs c s
    · exact hkeeps
    · rw [hfix] at h; cases h
  unchanged_iff fix h := by
    obtain ⟨-, hok⟩ | ⟨-, fix', hfix, ha, -⟩ := run_cases hs c s
    · exact (hok fix h).1.loaded_eq_updated_iff
    · rw [hfix] at h; cases h
      exact ha.loaded_eq_updated_iff
  persisted_iff fix h := by
    obtain ⟨-, hok⟩ | ⟨hm, fix', hfix, -, hp, hc, -⟩ := run_cases hs c s
    · obtain ⟨-, hp, hzero⟩ := hok fix h
      rw [hp]
      refine ⟨fun e => Bool.noConfusion e, fun ⟨hm, hc⟩ => ?_⟩
      have := hzero hm
      omega
    · rw [hfix] at h; cases h
      exact ⟨fun _ => ⟨hm, hc⟩, fun _ => hp⟩

end Call

/-! ## Runs of calls -/

/-- The number of fixes that a run has written. -/
def FileRun.writtenFixes (run : FileRun) : Nat :=
  match run.result with
  | .ok fix => if fix.persisted then fix.report.fixedCount else 0
  | .error _ => 0

/-- A cell that is empty and stays so, or whose text is raised in `n` places. -/
def RaisedBy (n : Nat) : Option String → Option String → Prop
  | none, none => n = 0
  | some t, some t' =>
    List.Forall₂ Raised t.toList t'.toList ∧ differences t.toList t'.toList = n
  | _, _ => False

theorem RaisedBy.cases {n : Nat} {o o' : Option String} (h : RaisedBy n o o') :
    o = none ∧ o' = none ∨ ∃ t t', o = some t ∧ o' = some t' ∧
      List.Forall₂ Raised t.toList t'.toList ∧ differences t.toList t'.toList = n := by
  cases o <;> cases o' <;> simp only [RaisedBy] at h
  · exact .inl ⟨rfl, rfl⟩
  · exact .inr ⟨_, _, rfl, rfl, h⟩

theorem RaisedBy.refl (o : Option String) : RaisedBy 0 o o := by
  cases o with
  | none => rfl
  | some t => exact ⟨List.forall₂_same.2 fun c _ => .same c, differences_self t.toList⟩

theorem RaisedBy.trans {m n : Nat} {o o' o'' : Option String} (h : RaisedBy m o o')
    (h' : RaisedBy n o' o'') : RaisedBy (m + n) o o'' := by
  cases o <;> cases o' <;> cases o'' <;> simp only [RaisedBy] at h h' ⊢
  · omega
  · refine ⟨forall₂_trans h.1 h'.1 Raised.trans, ?_⟩
    rw [differences_trans h.1 h'.1, h.2, h'.2]

namespace Call

variable {σ κ : Type} [DecidableEq κ] {store : Store (StateM σ)} {cell : Path → κ}
  {text? : σ → κ → Option String}

/-- What a call does to a cell. -/
theorem raisedBy_run (hs : store.Lawful cell text?) (c : Call) (s : σ) (k : κ) :
    RaisedBy (if cell c.path = k then ((c.run store).run s).1.writtenFixes else 0) (text? s k)
      (text? ((c.run store).run s).2 k) := by
  obtain ⟨hkeeps, hok⟩ | ⟨-, fix, hfix, ha, hp, -, hloaded, hhere, hthere⟩ := run_cases hs c s
  · have hzero : ((c.run store).run s).1.writtenFixes = 0 := by
      unfold FileRun.writtenFixes
      split
      · next fix h => simp [(hok fix h).2.1]
      · rfl
    rw [hzero, ite_self, hkeeps]
    exact .refl _
  · by_cases hk : cell c.path = k
    · subst hk
      rw [if_pos rfl, hloaded, hhere, FileRun.writtenFixes, hfix]
      simp only [hp, if_true]
      exact ⟨ha.raised, ha.count⟩
    · rw [if_neg hk, hthere k (Ne.symm hk)]
      exact .refl _

theorem run_runAll_cons (c : Call) (calls : List Call) (s : σ) :
    (runAll store (c :: calls)).run s =
      (((c.run store).run s).1 :: ((runAll store calls).run ((c.run store).run s).2).1,
        ((runAll store calls).run ((c.run store).run s).2).2) := rfl

theorem raisedBy_runAll (hs : store.Lawful cell text?) (calls : List Call) (s : σ) (k : κ) :
    RaisedBy
      (List.zipWith (fun c run => if cell c.path = k then run.writtenFixes else 0) calls
        ((runAll store calls).run s).1).sum
      (text? s k) (text? ((runAll store calls).run s).2 k) := by
  induction calls generalizing s with
  | nil => exact .refl _
  | cons c calls ih =>
    rw [run_runAll_cons, List.zipWith_cons_cons, List.sum_cons]
    exact (raisedBy_run hs c s k).trans (ih ((c.run store).run s).2)

end Call

/-- **What runs on files do to a store.** Each call behaves, in whatever state it starts; and after
any calls each text has as many letters raised as the calls on its cell have written fixes. -/
theorem fileRuns_account {σ κ : Type} [DecidableEq κ] (store : Store (StateM σ)) (cell : Path → κ)
    (text? : σ → κ → Option String) (hs : store.Lawful cell text?) :
    (∀ (c : Call) (s : σ), c.Behaves store text? s) ∧
      ∀ (calls : List Call) (s : σ) (k : κ), ∃ runs s', (Call.runAll store calls).run s = (runs, s') ∧
        (text? s k = none ∧ text? s' k = none ∨
          ∃ t t', text? s k = some t ∧ text? s' k = some t' ∧ t'.length = t.length ∧
            List.Forall₂ Raised t.toList t'.toList ∧
            differences t.toList t'.toList =
              (List.zipWith (fun c run => if cell c.path = k then run.writtenFixes else 0)
                calls runs).sum) := by
  refine ⟨Call.behaves hs, fun calls s k => ⟨_, _, rfl, ?_⟩⟩
  obtain h | ⟨t, t', ht, ht', hr, hn⟩ := (Call.raisedBy_runAll hs calls s k).cases
  · exact .inl h
  · exact .inr ⟨t, t', ht, ht', hr.length_eq.symm, hr, hn⟩

/-- Two files with one text; the second one cannot be written. -/
def Sample.memory : Memory :=
  ⟨[(⟨"A.java"⟩, document.render), (⟨"B.java"⟩, document.render)], [], [⟨"B.java"⟩], []⟩

/-- A preview, a fix, a write that fails, and the first file again under another spelling. -/
def Sample.calls : List Call :=
  [⟨.check, Java.analyzer, ⟨"A.java"⟩, letters, .range⟩,
    ⟨.apply, Java.analyzer, ⟨"A.java"⟩, letters, .coordinate⟩,
    ⟨.apply, Java.analyzer, ⟨"B.java"⟩, letters, .coordinate⟩,
    ⟨.apply, Java.analyzer, ⟨"A.java/"⟩, positions, .range⟩]

theorem fileRuns_account_memory :
    Memory.medium.store.Lawful Path.components Memory.text? ∧
      (∀ c ∈ Sample.calls, c.Behaves Memory.medium.store Memory.text? Sample.memory) ∧
      ∃ runs s', (Call.runAll Memory.medium.store Sample.calls).run Sample.memory = (runs, s') ∧
        (Sample.memory.text? [.name "A.java".toList] = none ∧
            s'.text? [.name "A.java".toList] = none ∨
          ∃ t t', Sample.memory.text? [.name "A.java".toList] = some t ∧
            s'.text? [.name "A.java".toList] = some t' ∧ t'.length = t.length ∧
            List.Forall₂ Raised t.toList t'.toList ∧
            differences t.toList t'.toList =
              (List.zipWith (fun c run =>
                if c.path.components = [.name "A.java".toList] then run.writtenFixes else 0)
                Sample.calls runs).sum) := by
  obtain ⟨hcalls, hruns⟩ := fileRuns_account _ _ _ Memory.lawful_store
  exact ⟨Memory.lawful_store, fun c _ => hcalls c Sample.memory, hruns Sample.calls Sample.memory _⟩

end LongSuffix
