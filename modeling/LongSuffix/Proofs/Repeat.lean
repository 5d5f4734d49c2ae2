import LongSuffix.Proofs.Canonical
import LongSuffix.Proofs.DryRun
import LongSuffix.Proofs.Structure

/-!
# Applying a report again

An application loads what the one before it has written, cuts it into lines again and, by range,
takes new tokens from it. Nothing is left to do all the same: the text is cut into the document that
the first batch left, and by range the new tokens have no long literal that the old ones did not
have. So each file that failed fails again in the same way, each other file has nothing fixed, and
nothing is written (`ViolationReport.apply_again`). This holds for positions that were refused as
well as for those that were fixed.
-/

namespace LongSuffix

/-! ## A text that was fixed -/

/-- By range, the analyzer has a parser that keeps the tree of the text. Nothing is asked of it by
coordinate. -/
def Analyzer.Keeps (analyzer : Analyzer) (strategy : Strategy) (text : String) : Prop :=
  strategy = .range → ∃ parse, analyzer = .ofParser parse ∧ KeepsTree parse text

theorem Locator.isEmpty_of_fix? {loc : Locator} {d d' : Document} {ps : PositionSet} {r : FixReport}
    (h : loc.fix? d ps = some (r, d')) : ps.isEmpty = false := by
  unfold fix? at h
  split at h
  · cases h
  · next hne => simpa using hne

section

variable {analyzer : Analyzer} {path : Path} {positions : PositionSet} {strategy : Strategy}
  {text : String} {loc : Locator} {events : List Log.Event} {r : FixReport} {d : Document}

/-- The tokens of the text that a batch by range leaves have nothing to fix. -/
theorem KeepsTree.literals_again {parse : String → Except SyntaxFault Tree} {tokens : List Literal}
    (h : KeepsTree parse text) (htokens : (Analyzer.ofParser parse).literals text = .ok tokens)
    (hfix : (Locator.range tokens).fix? (.parse text) positions = some (r, d)) :
    ∃ tokens', (Analyzer.ofParser parse).literals d.render = .ok tokens' ∧
      ∀ p ∈ positions, ¬ (Locator.range tokens').Fixes (.parse d.render) p := by
  have hfree := Document.newlineFree_parse text
  obtain ⟨tree, hparse, hnodes⟩ := h.areOf htokens
  have hparse' := (h.steady tree hparse).parse_render_fix? hparse hnodes hfix
  obtain ⟨tokens', htokens', hnodes'⟩ := (h.of_fix? hparse hnodes hfix).literals hparse'
  refine ⟨tokens', htokens', fun p hp hf => ?_⟩
  have hends := (hnodes'.fixes_range_iff.1 hf).of_raised (h.placed tree hparse)
    (Locator.raised_render_fix? hfix)
  -- The position was fixed by the first batch, and its letter is not lower case any more.
  have hfixed : r.Fixes p :=
    (Locator.fixes_fix?_iff hfree hfix).2 ⟨hp, hnodes.fixes_range_iff.2 hends⟩
  have hupper := ((Locator.describes_fix? hfree hfix).raised p hfixed).2
  have hlower := hf.lower
  rw [Locator.parse_render_fix? hfix, hupper] at hlower
  cases hlower

theorem locatorFor_again (hkeeps : analyzer.Keeps strategy text)
    (hloc : locatorFor analyzer path strategy text = .ok (loc, events))
    (hfix : loc.fix? (.parse text) positions = some (r, d)) :
    ∃ loc' events', locatorFor analyzer path strategy d.render = .ok (loc', events') ∧
      ∀ p ∈ positions, ¬ loc'.Fixes (.parse d.render) p := by
  cases strategy with
  | coordinate =>
    cases hloc
    refine ⟨.coordinate, [], rfl, fun p hp => ?_⟩
    rw [Locator.parse_render_fix? hfix]
    exact Locator.not_fixes_fix? (Document.newlineFree_parse text) hfix hp
  | range =>
    obtain ⟨parse, rfl, hparser⟩ := hkeeps rfl
    obtain ⟨tokens, htokens, rfl⟩ := locatorFor_range hloc
    obtain ⟨tokens', htokens', hnone⟩ := hparser.literals_again htokens hfix
    exact ⟨.range tokens', [FixEvent.extracted path tokens'.length],
      by simp only [locatorFor, htokens'], hnone⟩

/-- A text that was fixed has nothing left to fix. -/
theorem fixText_again (hkeeps : analyzer.Keeps strategy text) {fix : FileFix}
    (h : (fixText analyzer path positions strategy text).result = .ok fix) :
    ∃ fix', (fixText analyzer path positions strategy fix.updated).result = .ok fix' ∧
      fix'.report.fixedCount = 0 := by
  obtain ⟨e, -, hres⟩ | ⟨loc, events, hloc, ⟨-, hres⟩ | ⟨r, d, hfix, hres | ⟨-, -, _, -, hres⟩⟩⟩ :=
    fixText_cases analyzer path positions strategy text
  all_goals rw [hres] at h; cases h
  obtain ⟨loc', events', hloc', hnone⟩ := locatorFor_again hkeeps hloc hfix
  obtain ⟨r', hfix', hzero⟩ := Locator.fix?_of_not_fixes (Document.newlineFree_parse d.render)
    (Locator.isEmpty_of_fix? hfix) hnone
  obtain ⟨e, herror, -⟩ | ⟨_, _, hok, hrest⟩ :=
    fixText_cases analyzer path positions strategy d.render
  · rw [hloc'] at herror
    cases herror
  · rw [hloc'] at hok
    cases hok
    rw [hfix'] at hrest
    obtain ⟨hnil, -⟩ | ⟨_, _, hsome, hres' | ⟨-, hchanged, -⟩⟩ := hrest
    · cases hnil
    · cases hsome
      exact ⟨_, hres', hzero⟩
    · cases hsome
      rw [FixReport.changed_iff, hzero] at hchanged
      cases hchanged

end

/-! ## One file again -/

/-- The result of a file that could not be written. -/
def isUnwritten : Except FixError FileFix → Bool
  | .error (.unwritable _ _) => true
  | _ => false

/-- How a second result goes with a first one: the same failure, or nothing fixed in the text that
the first one left. -/
inductive Repeats : Except FixError FileFix → Except FixError FileFix → Prop where
  | failed (e : FixError) : Repeats (.error e) (.error e)
  | settled (fix again : FileFix) (count : again.report.fixedCount = 0)
    (persisted : again.persisted = false) (loaded : again.loaded = fix.updated)
    (updated : again.loaded = again.updated) : Repeats (.ok fix) (.ok again)

section

variable {σ κ : Type}

/-- What the store says about a file after a run with some result: it gives the updated text, and
after a failure it says what it said before. -/
def Leaves (store : Store (StateM σ)) (path : Path) (s t : σ) : Except FixError FileFix → Prop
  | .ok fix => (store.answers path t).1 = .ok fix.updated
  | .error _ => store.answers path t = store.answers path s

variable {store : Store (StateM σ)} {cell : Path → κ} {text? : σ → κ → Option String}

theorem Leaves.congr {path : Path} {s s' t t' : σ} {result : Except FixError FileFix}
    (h : Leaves store path s t result) (hs : store.answers path s' = store.answers path s)
    (ht : store.answers path t' = store.answers path t) : Leaves store path s' t' result := by
  cases result with
  | ok fix => exact (congrArg Prod.fst ht).trans h
  | error e => exact ht.trans (Eq.trans h hs.symm)

namespace Call

theorem preview_eq_ok {c : Call} {s : σ} {fix : FileFix}
    (h : ((c.preview store).run s).1.result = .ok fix) :
    c.positions.isEmpty = false ∧ (store.answers c.path s).1 = .ok fix.loaded ∧
      (fixText c.analyzer c.path c.positions c.strategy fix.loaded).result = .ok fix := by
  rw [preview, run_previewFile] at h
  split at h
  · cases h
  · next hne =>
    unfold runOfLoad at h
    split at h
    · cases h
    · cases h
    · next text hload =>
      obtain rfl := (fixText_ok h).1
      exact ⟨by simpa using hne, hload, h⟩

theorem preview_of_load {c : Call} {t : σ} {text : String} (hne : c.positions.isEmpty = false)
    (hload : (store.answers c.path t).1 = .ok text) :
    ((c.preview store).run t).1.result =
      (fixText c.analyzer c.path c.positions c.strategy text).result := by
  have hload' : ((store.load c.path).run t).1 = .ok text := hload
  rw [preview, run_previewFile, hne, hload']
  rfl

theorem leaves_run (hs : store.Rereads cell text?) (c : Call) (hm : c.mode = .apply) (s : σ)
    (hw : isUnwritten ((c.run store).run s).1.result = false) :
    Leaves store c.path s ((c.run store).run s).2 ((c.run store).run s).1.result := by
  have hanswers := preview_answers hs.toIndependent c s c.path
  have hok : ∀ fix, ((c.preview store).run s).1.result = .ok fix → _ :=
    fun _ h => And.intro (preview_eq_ok h).2.1 (preview_ok hs.toLawful h).2.2
  obtain ⟨mode, analyzer, path, positions, strategy⟩ := c
  cases hm
  simp only [run, Mode.run, preview] at hanswers hok hw ⊢
  rcases hp : (previewFile analyzer path positions strategy store).run s with
    ⟨⟨events, e | fix⟩, s'⟩
  · rw [hp] at hanswers
    rw [run_fixFile_of_error hp]
    exact hanswers
  · rw [hp] at hanswers hok
    obtain ⟨hload, haccounts⟩ := hok fix rfl
    have hload' : (store.answers path s').1 = .ok fix.loaded := by rw [hanswers, hload]
    by_cases hc : 0 < fix.report.fixedCount
    · rcases hpersist : (store.persist path fix.updated).run s' with ⟨fault | _, s''⟩
      · rw [run_fixFile_of_unwritten hp (FixReport.changed_iff.2 hc) hpersist] at hw
        cases hw
      · rw [run_fixFile_of_written hp (FixReport.changed_iff.2 hc) hpersist]
        have hreread := hs.persist_load path fix.updated s' fix.loaded hload' (by rw [hpersist])
        rw [hpersist] at hreread
        exact hreread
    · have hzero : fix.report.fixedCount = 0 := by omega
      rw [run_fixFile_of_unchanged hp (by simp [FixReport.changed, hzero])]
      rw [haccounts.loaded_eq_updated_iff.2 hzero] at hload'
      exact hload'

/-- What the preview of an `ok` result was, and of a failure that is not one of writing. -/
theorem preview_of_run (hs : store.Independent cell text?) (c : Call) (hm : c.mode = .apply) (s : σ)
    (hw : isUnwritten ((c.run store).run s).1.result = false) :
    (∃ e, ((c.run store).run s).1.result = .error e ∧
        ((c.preview store).run s).1.result = .error e) ∨
      ∃ fix fix', ((c.run store).run s).1.result = .ok fix ∧
        ((c.preview store).run s).1.result = .ok fix' ∧ fix'.updated = fix.updated := by
  have hsettles := run_settles hs c hm s
  generalize text? ((c.run store).run s).2 (cell c.path) = after at hsettles
  generalize ((c.preview store).run s).1.result = preview at hsettles
  generalize ((c.run store).run s).1.result = result at hsettles hw
  cases hsettles with
  | failed e => exact .inl ⟨e, rfl, rfl⟩
  | untouched fix _ => exact .inr ⟨fix, fix, rfl, rfl, rfl⟩
  | written fix _ _ => exact .inr ⟨_, fix, rfl, rfl, rfl⟩
  | unwritten => cases hw

theorem preview_repeats (hs : store.Independent cell text?) (c : Call) (hm : c.mode = .apply)
    {s t : σ} (hkeeps : ∀ text, (store.answers c.path s).1 = .ok text →
      c.analyzer.Keeps c.strategy text)
    (hw : isUnwritten ((c.run store).run s).1.result = false)
    (hleaves : Leaves store c.path s t ((c.run store).run s).1.result) :
    Repeats ((c.run store).run s).1.result ((c.preview store).run t).1.result := by
  obtain ⟨e, hrun, hpreview⟩ | ⟨fix, fix', hrun, hpreview, hupdated⟩ := preview_of_run hs c hm s hw
  · rw [hrun] at hleaves ⊢
    rw [c.result_preview_congr hleaves, hpreview]
    exact .failed e
  · obtain ⟨hne, hload, htext⟩ := preview_eq_ok hpreview
    rw [hrun] at hleaves ⊢
    have hload' : (store.answers c.path t).1 = .ok fix'.updated := by rw [hupdated]; exact hleaves
    obtain ⟨again, hagain, hzero⟩ := fixText_again (hkeeps _ hload) htext
    obtain ⟨hloaded, hpersisted, haccounts⟩ := fixText_ok hagain
    rw [preview_of_load hne hload', hagain]
    exact .settled fix again hzero hpersisted (hloaded.trans hupdated)
      (haccounts.loaded_eq_updated_iff.2 hzero)

/-- A fix whose preview has nothing to fix ends with the result of the preview, and writes
nothing. -/
theorem run_of_idle (c : Call) (hm : c.mode = .apply) (t : σ)
    (h : ∀ fix, ((c.preview store).run t).1.result = .ok fix → fix.report.fixedCount = 0) :
    ((c.run store).run t).1.result = ((c.preview store).run t).1.result ∧
      c.dueWrites store t = [] := by
  obtain ⟨mode, analyzer, path, positions, strategy⟩ := c
  cases hm
  simp only [run, Mode.run, dueWrites, preview] at h ⊢
  rcases hp : (previewFile analyzer path positions strategy store).run t with
    ⟨⟨events, e | fix⟩, t'⟩
  · rw [run_fixFile_of_error hp]
    exact ⟨rfl, rfl⟩
  · rw [hp] at h
    have hc : fix.report.changed = false := by simp [FixReport.changed, h fix rfl]
    rw [run_fixFile_of_unchanged hp hc]
    exact ⟨rfl, by simp [hc]⟩

theorem run_repeats (hs : store.Independent cell text?) (c : Call) (hm : c.mode = .apply)
    {s t : σ} (hkeeps : ∀ text, (store.answers c.path s).1 = .ok text →
      c.analyzer.Keeps c.strategy text)
    (hw : isUnwritten ((c.run store).run s).1.result = false)
    (hleaves : Leaves store c.path s t ((c.run store).run s).1.result) :
    Repeats ((c.run store).run s).1.result ((c.run store).run t).1.result ∧
      c.dueWrites store t = [] := by
  have hrepeats := preview_repeats hs c hm hkeeps hw hleaves
  have hidle : ∀ fix, ((c.preview store).run t).1.result = .ok fix →
      fix.report.fixedCount = 0 := by
    intro fix hfix
    rw [hfix] at hrepeats
    generalize ((c.run store).run s).1.result = result at hrepeats
    cases hrepeats with
    | settled _ _ count => exact count
  obtain ⟨hresult, hdue⟩ := run_of_idle c hm t hidle
  exact ⟨by rwa [hresult], hdue⟩

theorem dueWrites_congr (c : Call) {s t : σ}
    (h : store.answers c.path s = store.answers c.path t) :
    c.dueWrites store s = c.dueWrites store t := by
  unfold dueWrites
  rw [c.result_preview_congr h]

end Call

/-! ## The files of a report again -/

variable (analyzer : Analyzer) (strategy : Strategy) {groups : Groups}

theorem answers_runGroups_other (hs : store.Independent cell text?) (mode : Mode) {q : Path}
    (hq : ∀ g ∈ groups, cell q ≠ cell g.1) (s : σ) :
    store.answers q ((runGroups mode analyzer strategy store groups).run s).2 =
      store.answers q s := by
  induction groups generalizing s with
  | nil => rfl
  | cons g groups ih =>
    obtain ⟨hg, hq⟩ := List.forall_mem_cons.1 hq
    rw [(run_runGroups_cons mode analyzer strategy g groups s).2, ih hq]
    exact Call.run_answers hs (groupCall mode analyzer strategy g) s hg

/-- An application leaves each file as its own run would leave it. -/
theorem leaves_runGroups (hs : store.Rereads cell text?)
    (hcells : groups.Pairwise fun g g' => cell g.1 ≠ cell g'.1) (s : σ)
    (hw : ∀ g ∈ groups, isUnwritten
      (((groupCall .apply analyzer strategy g).run store).run s).1.result = false) :
    ∀ g ∈ groups, Leaves store g.1 s ((runGroups .apply analyzer strategy store groups).run s).2
      (((groupCall .apply analyzer strategy g).run store).run s).1.result := by
  induction groups generalizing s with
  | nil => intro g hg; cases hg
  | cons g groups ih =>
    obtain ⟨hg, hcells⟩ := List.pairwise_cons.1 hcells
    obtain ⟨hwg, hw⟩ := List.forall_mem_cons.1 hw
    rw [(run_runGroups_cons .apply analyzer strategy g groups s).2]
    -- The first file's run is nothing to the others, neither to what is said about them nor to
    -- their results.
    have hanswers : ∀ g' ∈ groups, store.answers g'.1
        (((groupCall .apply analyzer strategy g).run store).run s).2 = store.answers g'.1 s :=
      fun g' hg' => Call.run_answers hs.toIndependent (groupCall .apply analyzer strategy g) s
        (Ne.symm (hg g' hg'))
    have hresults : ∀ g' ∈ groups, (((groupCall .apply analyzer strategy g').run store).run
        (((groupCall .apply analyzer strategy g).run store).run s).2).1.result =
          (((groupCall .apply analyzer strategy g').run store).run s).1.result :=
      fun g' hg' => Call.result_run_congr hs.toIndependent (groupCall .apply analyzer strategy g')
        (hanswers g' hg')
    intro g' hg'
    rcases List.mem_cons.1 hg' with rfl | hg'
    · refine (Call.leaves_run hs (groupCall .apply analyzer strategy g') rfl s hwg).congr rfl ?_
      exact answers_runGroups_other analyzer strategy hs.toIndependent .apply hg _
    · have hleaves := ih hcells (((groupCall .apply analyzer strategy g).run store).run s).2
        (fun g'' hg'' => by rw [hresults g'' hg'']; exact hw g'' hg'') g' hg'
      rw [hresults g' hg'] at hleaves
      exact hleaves.congr (hanswers g' hg').symm rfl

/-- The writes of an application are those that are due at its start. -/
theorem writes_runGroups (hs : store.Independent cell text?) (mode : Mode)
    (hcells : groups.Pairwise fun g g' => cell g.1 ≠ cell g'.1) (s : σ) (log : List Write) :
    ((runGroups mode analyzer strategy store.recording groups).run (s, log)).2 =
      (((runGroups mode analyzer strategy store groups).run s).2,
        log ++ groups.flatMap fun g => (groupCall mode analyzer strategy g).dueWrites store s) := by
  induction groups generalizing s log with
  | nil => rw [List.flatMap_nil, List.append_nil]; rfl
  | cons g groups ih =>
    obtain ⟨hg, hcells⟩ := List.pairwise_cons.1 hcells
    have hdue : (groups.flatMap fun g' => (groupCall mode analyzer strategy g').dueWrites store
        (((groupCall mode analyzer strategy g).run store).run s).2) =
          groups.flatMap fun g' => (groupCall mode analyzer strategy g').dueWrites store s := by
      refine List.flatMap_congr fun g' hg' => Call.dueWrites_congr _ ?_
      exact Call.run_answers hs (groupCall mode analyzer strategy g) s (Ne.symm (hg g' hg'))
    rw [(run_runGroups_cons mode analyzer strategy g groups (s, log)).2,
      Call.run_recording (groupCall mode analyzer strategy g) s log, ih hcells, hdue,
      (run_runGroups_cons mode analyzer strategy g groups s).2, List.flatMap_cons,
      List.append_assoc]

end

/-- **A report that was applied has nothing left to apply.** If all writes of the first application
succeed, the second one comes to the same files, fails where the first one failed, fixes nothing in
the others and writes nothing. By range, the parser has to keep the trees of the texts that the first
application loads. -/
theorem ViolationReport.apply_again {σ κ : Type} (store : Store (StateM σ)) (cell : Path → κ)
    (text? : σ → κ → Option String) (hs : store.Rereads cell text?)
    (hcell : ∀ p q : Path, p.components ≠ q.components → cell p ≠ cell q)
    (r : ViolationReport) (analyzer : Analyzer) (workspace : Path) (s : σ)
    (hparser : r.metadata.strategy = .range → ∃ parse, analyzer = .ofParser parse ∧
      ∀ g ∈ r.groups workspace, ∀ text, ((store.load g.1).run s).1 = .ok text →
        KeepsTree parse text)
    (hwritten : ∀ result ∈ r.resultsFrom analyzer workspace store s .apply,
      isUnwritten result.2 = false) :
    ∃ s', ((r.run .apply analyzer workspace store).run s).2 = s' ∧
      List.Forall₂ (fun first again => again.1 = first.1 ∧ Repeats first.2 again.2)
        (r.resultsFrom analyzer workspace store s .apply)
        (r.resultsFrom analyzer workspace store s' .apply) ∧
      ∀ log, ((r.run .apply analyzer workspace store.recording).run (s', log)).2.2 = log := by
  have hcells : (r.groups workspace).Pairwise fun g g' => cell g.1 ≠ cell g'.1 :=
    (r.groups_components_ne workspace).imp (hcell _ _)
  have hresults : ∀ t, r.resultsFrom analyzer workspace store t .apply = _ := fun t =>
    results_runGroups .apply analyzer r.metadata.strategy hs.toIndependent hcells t
  rw [hresults] at hwritten
  have hw : ∀ g ∈ r.groups workspace, isUnwritten (((groupCall .apply analyzer
      r.metadata.strategy g).run store).run s).1.result = false :=
    fun g hg => hwritten _ (List.mem_map_of_mem hg)
  have hagain : ∀ g ∈ r.groups workspace, _ := fun g hg =>
    Call.run_repeats hs.toIndependent (groupCall .apply analyzer r.metadata.strategy g) rfl
      (fun text hload hrange => by
        obtain ⟨parse, hanalyzer, hkeeps⟩ := hparser hrange
        exact ⟨parse, hanalyzer, hkeeps g hg text hload⟩)
      (hw g hg) (leaves_runGroups analyzer r.metadata.strategy hs hcells s hw g hg)
  refine ⟨_, rfl, ?_, fun log => ?_⟩
  · rw [hresults, hresults, List.forall₂_map_left_iff, List.forall₂_map_right_iff,
      List.forall₂_same]
    exact fun g hg => ⟨rfl, (hagain g hg).1⟩
  · have hwrites := writes_runGroups analyzer r.metadata.strategy hs.toIndependent .apply hcells
      ((r.run .apply analyzer workspace store).run s).2 log
    have hdue := List.flatMap_eq_nil_iff.2 fun g hg => (hagain g hg).2
    exact (congrArg Prod.snd hwrites).trans (by rw [ViolationReport.run, hdue, List.append_nil])

/-- Two long literals under two spellings of one path, a number in hexadecimal, and a file that is
not there. -/
def Sample.sourceReport : ViolationReport :=
  ⟨{ strategy := .range }, [⟨"S.java", 2, 4⟩, ⟨"S.java/", 1, 5⟩, ⟨"T.java", 1, 1⟩, ⟨"S.java", 1, 10⟩]⟩

theorem ViolationReport.apply_again_memory :
    Memory.medium.store.Rereads Path.components Memory.text? ∧
      KeepsTree Sample.parse Sample.source ∧
      ∃ first s', (Sample.sourceReport.run .apply (.ofParser Sample.parse) ⟨"src"⟩
          Memory.medium.store).run Sample.sourceMemory = (first, s') ∧
        first.results.map (fun result => result.2.toOption.map (·.report.fixedCount)) =
          [some 2, none] ∧
        (∀ result ∈ first.results, isUnwritten result.2 = false) ∧
        List.Forall₂ (fun first again => again.1 = first.1 ∧ Repeats first.2 again.2) first.results
          (Sample.sourceReport.resultsFrom (.ofParser Sample.parse) ⟨"src"⟩ Memory.medium.store s'
            .apply) ∧
        ∀ log, ((Sample.sourceReport.run .apply (.ofParser Sample.parse) ⟨"src"⟩
          Memory.medium.store.recording).run (s', log)).2.2 = log := by
  have hkeeps : KeepsTree Sample.parse Sample.source := Sample.keepsTree (by decide +kernel)
  have hresults : (Sample.sourceReport.resultsFrom (.ofParser Sample.parse) ⟨"src"⟩
      Memory.medium.store Sample.sourceMemory .apply).map
        (fun result => result.2.toOption.map (·.report.fixedCount)) = [some 2, none] ∧
      ∀ result ∈ Sample.sourceReport.resultsFrom (.ofParser Sample.parse) ⟨"src"⟩
        Memory.medium.store Sample.sourceMemory .apply, isUnwritten result.2 = false := by
    decide +kernel
  have hparser : Sample.sourceReport.metadata.strategy = .range → ∃ parse,
      Analyzer.ofParser Sample.parse = .ofParser parse ∧
        ∀ g ∈ Sample.sourceReport.groups ⟨"src"⟩, ∀ text,
          ((Memory.medium.store.load g.1).run Sample.sourceMemory).1 = .ok text →
            KeepsTree parse text := by
    intro _
    refine ⟨Sample.parse, rfl, fun g _ text hload => ?_⟩
    -- There is one text in memory.
    have hcell := Memory.lawful_store.load_ok g.1 Sample.sourceMemory text hload
    obtain ⟨file, hfind, htext⟩ := Option.map_eq_some_iff.1 hcell
    obtain rfl := List.mem_singleton.1 (List.mem_of_find?_eq_some hfind)
    obtain rfl : Sample.source = text := htext
    exact hkeeps
  obtain ⟨s', hs', hrepeats, hwrites⟩ := apply_again Memory.medium.store Path.components Memory.text?
    Memory.rereads_store (fun _ _ h => h) Sample.sourceReport (.ofParser Sample.parse) ⟨"src"⟩
    Sample.sourceMemory hparser hresults.2
  exact ⟨Memory.rereads_store, hkeeps, _, s', Prod.ext rfl hs', hresults.1, hresults.2, hrepeats,
    hwrites⟩

end LongSuffix
