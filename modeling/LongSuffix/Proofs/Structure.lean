import LongSuffix.Proofs.Comparison
import LongSuffix.Proofs.Rescan

/-!
# Rewrites by range keep the structure

A batch by range raises letters at the ends of long literals of the tree, any number of them. After
each letter the parser gives the same tree, and the literals whose letters are still to be raised
read as before: the letter that was raised is no digit and not their own. So the tree is carried
from the source to the text that the batch leaves, nothing is found to differ when the two are
compared, and no rewrite is rejected (`Analyzer.range_rewrite_accepted`). The literals may even
overlap; all that is asked is that they stand where their places say.
-/

namespace LongSuffix

/-! ## Literals in raised sources -/

namespace Tree

variable {tree n : Tree} {source source' before text after : List Char} {p : Position}

/-- In a source with letters raised a node takes up the same text with letters raised. -/
theorem Reads.raised (h : n.Reads source before text after)
    (hr : List.Forall₂ Raised source source') :
    ∃ before' text' after', n.Reads source' before' text' after' ∧
      List.Forall₂ Raised before before' ∧ List.Forall₂ Raised text text' := by
  rw [h.source_eq] at hr
  obtain ⟨before', _, rfl, hbefore, hrest⟩ := forall₂_append_left hr
  obtain ⟨text', after', rfl, htext, -⟩ := forall₂_append_left hrest
  refine ⟨before', text', after', ⟨rfl, ?_, ?_⟩, hbefore, htext⟩
  · rw [h.start, Place.endOf_raised hbefore]
  · rw [h.stop, Place.endOf_raised (List.rel_append hbefore htext)]

/-- The position is that of the last letter of a literal that reads as digits and an `l`. -/
def EndsLong (tree : Tree) (source : List Char) (p : Position) : Prop :=
  ∃ n ∈ tree.literalNodes, ∃ before digits after,
    n.Reads source before (digits ++ ['l']) after ∧ digits ≠ [] ∧
      digits.all Char.isDigit = true ∧ p = .endOf (before ++ digits)

theorem EndsLong.lower (h : tree.EndsLong source p) :
    Document.at? ⟨Document.linesOf source⟩ p = some 'l' := by
  obtain ⟨n, -, before, digits, after, hr, -, -, rfl⟩ := h
  have hcut : source = (before ++ digits) ++ 'l' :: after := by simp [hr.source_eq]
  rw [hcut]
  exact Document.at?_linesOf (by decide) _ _

/-- A literal whose letter is still there reads as before. -/
theorem EndsLong.raised (h : tree.EndsLong source p) (hr : List.Forall₂ Raised source source')
    (hp : Document.at? ⟨Document.linesOf source'⟩ p = some 'l') : tree.EndsLong source' p := by
  obtain ⟨n, hn, before, digits, after, hreads, hne, hdigits, rfl⟩ := h
  obtain ⟨before', text', after', hreads', hbefore, htext⟩ := hreads.raised hr
  have hend : Position.endOf (before ++ digits) = .endOf (before' ++ digits) :=
    Position.endOf_raised (List.rel_append hbefore (raised_refl digits))
  rcases eq_of_raised_suffix (not_mem_of_all_isDigit hdigits (by decide)) htext with rfl | rfl
  · exact ⟨n, hn, before', digits, after', hreads', hne, hdigits, hend⟩
  · have hcut : source' = (before' ++ digits) ++ 'L' :: after' := by simp [hreads'.source_eq]
    rw [hend, hcut, Document.at?_linesOf (by decide)] at hp
    cases hp

/-- Raising letters makes no long literal. -/
theorem EndsLong.of_raised (hplaced : ∀ n ∈ tree.literalNodes, n.ReadsWith source fun _ _ => True)
    (hr : List.Forall₂ Raised source source') (h : tree.EndsLong source' p) :
    tree.EndsLong source p := by
  obtain ⟨n, hn, before', digits, after', hreads', hne, hdigits, rfl⟩ := h
  obtain ⟨before, text, after, hreads, -⟩ := hplaced n hn
  obtain ⟨_, _, _, hraised, hbefore, htext⟩ := hreads.raised hr
  obtain ⟨rfl, rfl, rfl⟩ := hraised.unique hreads'
  have hsame : text = digits ++ ['l'] := by
    refine eq_of_raised_of_no_upper htext ?_
    simp [not_mem_of_all_isDigit hdigits]
  subst hsame
  have hend : Position.endOf (before ++ digits) = .endOf _ :=
    Position.endOf_raised (List.rel_append hbefore (raised_refl digits))
  exact ⟨n, hn, before, digits, after, hreads, hne, hdigits, hend.symm⟩

/-! ## One letter, and one letter after the other -/

variable {parse : String → Except SyntaxFault Tree}

theorem Steady.raise_endsLong (hsteady : tree.Steady parse)
    (hparse : parse (.ofList source) = .ok tree) (h : tree.EndsLong source p) :
    ∃ source', parse (.ofList source') = .ok tree ∧ List.Forall₂ Raised source source' ∧
      Document.raise ⟨Document.linesOf source⟩ p = ⟨Document.linesOf source'⟩ := by
  obtain ⟨n, hn, before, digits, after, hr, hne, hdigits, rfl⟩ := h
  have hsource : source = before ++ (digits ++ 'l' :: after) := by simp [hr.source_eq]
  rw [hsource] at hr hparse ⊢
  refine ⟨_, hsteady before digits after n hn hne hdigits hr hparse, ?_, ?_⟩
  · rw [← List.append_assoc, ← List.append_assoc]
    exact raised_letter (before ++ digits) after
  · rw [← List.append_assoc, ← List.append_assoc]
    exact Document.raise_linesOf (before ++ digits) after

/-- Induction over the positions: those that are left are still ends of long literals, because none
of them has been raised. -/
theorem Steady.raise_each (hsteady : tree.Steady parse) {ps : List Position} (hps : ps.Nodup)
    (hparse : parse (.ofList source) = .ok tree) (h : ∀ p ∈ ps, tree.EndsLong source p) :
    ∃ source', parse (.ofList source') = .ok tree ∧
      ps.foldl Document.raise ⟨Document.linesOf source⟩ = ⟨Document.linesOf source'⟩ := by
  induction ps generalizing source with
  | nil => exact ⟨source, hparse, rfl⟩
  | cons p ps ih =>
    obtain ⟨hp, hrest⟩ := List.forall_mem_cons.1 h
    obtain ⟨hnew, hps⟩ := List.nodup_cons.1 hps
    obtain ⟨source₁, hparse₁, hr, hraise⟩ := hsteady.raise_endsLong hparse hp
    have hrest₁ : ∀ q ∈ ps, tree.EndsLong source₁ q := by
      intro q hq
      have hqp : q ≠ p := fun e => hnew (e ▸ hq)
      refine (hrest q hq).raised hr ?_
      rw [← hraise, Document.at?_raise_ne hqp, (hrest q hq).lower]
    obtain ⟨source', hparse', hfold⟩ := ih hps hparse₁ hrest₁
    exact ⟨source', hparse', by rw [List.foldl_cons, hraise, hfold]⟩

end Tree

/-! ## Batches by range -/

section

variable {parse : String → Except SyntaxFault Tree} {source : String} {tree : Tree}
  {tokens : List Literal}

/-- With the tokens of a tree, the positions that are fixed are the ends of its long literals. -/
theorem AreOf.fixes_range_iff (h : AreOf source.toList tree.literalNodes tokens) {p : Position} :
    (Locator.range tokens).Fixes (Document.parse source) p ↔ tree.EndsLong source.toList p := by
  have hoccupies : ∀ t ∈ tokens, t.isLowercaseLong = true → t.Occupies (Document.parse source) := by
    intro t ht hl
    obtain ⟨n, -, hof⟩ := exists_of_forall₂_of_mem h ht
    exact hof.occupies (plain_of_isLowercaseLong hl)
  rw [Locator.fixes_range_iff hoccupies]
  constructor
  · rintro ⟨t, ht, hlong⟩
    obtain ⟨n, hn, hof⟩ := exists_of_forall₂_of_mem h ht
    obtain ⟨before, digits, after, hr, hne, hdigits, -, hlast⟩ :=
      hof.reads_long hlong.isLowercaseLong
    exact ⟨n, hn, before, digits, after, hr, hne, hdigits,
      Option.some.inj (hlong.last.symm.trans hlast)⟩
  · rintro ⟨n, hn, before, digits, after, hr, hne, hdigits, rfl⟩
    obtain ⟨t, ht, hof⟩ := exists_of_forall₂_of_mem (List.Forall₂.flip h) hn
    obtain ⟨_, _, hr', -, hstop⟩ := hof.place
    obtain ⟨rfl, htext, -⟩ := hr'.unique hr
    refine ⟨t, ht, ⟨digits, hne, hdigits, htext⟩, Span.last_eq_some.2 ?_⟩
    rw [hstop, htext, ← List.append_assoc]
    exact Position.endOf_append (by decide)

theorem Tree.Steady.parse_render_fix? (hsteady : tree.Steady parse)
    (hparse : parse source = .ok tree) (h : AreOf source.toList tree.literalNodes tokens)
    {positions : PositionSet} {r : FixReport} {d : Document}
    (hfix : (Locator.range tokens).fix? (Document.parse source) positions = some (r, d)) :
    parse d.render = .ok tree := by
  have hd := Document.newlineFree_parse source
  obtain ⟨-, rfl⟩ := Locator.eq_of_fix? hfix
  have hends : ∀ p ∈ positions.toList.filter fun p =>
      (Locator.range tokens).statusOf (Document.parse source) p = .fixed,
      tree.EndsLong source.toList p := by
    intro p hp
    rw [← h.fixes_range_iff, ← Locator.statusOf_eq_fixed hd]
    simpa using (List.mem_filter.1 hp).2
  obtain ⟨source', hparse', hfold⟩ :=
    hsteady.raise_each (positions.nodup.filter _) (by rwa [String.ofList_toList]) hends
  have hdocument : ((Locator.range tokens).attemptAll (Document.parse source) positions.toList).2 =
      Document.parse (.ofList source') := by
    rw [Locator.document_attemptAll _ hd positions.nodup]
    refine Eq.trans hfold ?_
    rw [Document.parse, String.toList_ofList]
  rw [hdocument, Document.render_parse, hparse']

/-! ## Structure checks -/

/-- What is asked of a parser about a source: the literals of its tree stand where their places say,
and raising the letters of long ones leaves the tree as it is. -/
structure KeepsTree (parse : String → Except SyntaxFault Tree) (source : String) : Prop where
  placed : ∀ tree, parse source = .ok tree →
    ∀ n ∈ tree.literalNodes, n.ReadsWith source.toList fun _ _ => True
  steady : ∀ tree, parse source = .ok tree → tree.Steady parse

theorem KeepsTree.literals (h : KeepsTree parse source) (hparse : parse source = .ok tree) :
    ∃ tokens, (Analyzer.ofParser parse).literals source = .ok tokens ∧
      AreOf source.toList tree.literalNodes tokens := by
  have hreads : ∀ n ∈ tree.literalNodes, ∃ before text after,
      n.Reads source.toList before text after := by
    intro n hn
    obtain ⟨before, text, after, hr, -⟩ := h.placed tree hparse n hn
    exact ⟨before, text, after, hr⟩
  obtain ⟨tokens, hok, hnodes⟩ := Tree.collectLiterals_ok hreads
  exact ⟨tokens, (Analyzer.literals_ofParser hparse).trans hok, hnodes⟩

/-- Tokens that were extracted are those of a tree. -/
theorem KeepsTree.areOf (h : KeepsTree parse source)
    (htokens : (Analyzer.ofParser parse).literals source = .ok tokens) :
    ∃ tree, parse source = .ok tree ∧ AreOf source.toList tree.literalNodes tokens := by
  cases hparse : parse source with
  | error fault =>
    have hfail : (Analyzer.ofParser parse).literals source = .error fault := by
      show (parse source >>= Tree.literals source) = _
      rw [hparse]
      rfl
    rw [hfail] at htokens
    cases htokens
  | ok tree =>
    obtain ⟨tokens', htokens', hnodes⟩ := h.literals hparse
    obtain rfl := Except.ok.inj (htokens.symm.trans htokens')
    exact ⟨tree, rfl, hnodes⟩

/-- What is asked about a source holds of the text that a batch leaves. -/
theorem KeepsTree.of_fix? (h : KeepsTree parse source) (hparse : parse source = .ok tree)
    (hnodes : AreOf source.toList tree.literalNodes tokens) {positions : PositionSet} {r : FixReport}
    {d : Document}
    (hfix : (Locator.range tokens).fix? (Document.parse source) positions = some (r, d)) :
    KeepsTree parse d.render := by
  have hsteady := h.steady tree hparse
  have hsame : ∀ tree', parse d.render = .ok tree' → tree = tree' := fun tree' hparse' =>
    Except.ok.inj ((hsteady.parse_render_fix? hparse hnodes hfix).symm.trans hparse')
  constructor
  case placed =>
    intro tree' hparse' n hn
    obtain rfl := hsame tree' hparse'
    obtain ⟨before, text, after, hr, -⟩ := h.placed tree hparse n hn
    obtain ⟨_, _, _, hr', -⟩ := hr.raised (Locator.raised_render_fix? hfix)
    exact ⟨_, _, _, hr', trivial⟩
  case steady =>
    intro tree' hparse'
    obtain rfl := hsame tree' hparse'
    exact hsteady

theorem Analyzer.check_of_same_tree {after : String} (hbefore : parse source = .ok tree)
    (hafter : parse after = .ok tree) : (ofParser parse).check source after = .ok () :=
  check_eq_ok.2 ⟨tree, tree, hbefore, hafter, .refl _⟩

theorem KeepsTree.check_fix? (h : KeepsTree parse source)
    (htokens : (Analyzer.ofParser parse).literals source = .ok tokens) {positions : PositionSet}
    {r : FixReport} {d : Document}
    (hfix : (Locator.range tokens).fix? (Document.parse source) positions = some (r, d)) :
    (Analyzer.ofParser parse).check source d.render = .ok () := by
  obtain ⟨tree, hparse, hnodes⟩ := h.areOf htokens
  exact Analyzer.check_of_same_tree hparse
    ((h.steady tree hparse).parse_render_fix? hparse hnodes hfix)

theorem locatorFor_range {analyzer : Analyzer} {path : Path} {loc : Locator}
    {events : List Log.Event} (h : locatorFor analyzer path .range source = .ok (loc, events)) :
    ∃ tokens, analyzer.literals source = .ok tokens ∧ loc = .range tokens := by
  unfold locatorFor at h
  split at h
  · next heq => cases heq
  · split at h
    · next tokens htokens => cases h; exact ⟨tokens, htokens, rfl⟩
    · cases h

theorem KeepsTree.fixText_ne_rejected (h : KeepsTree parse source) (path : Path)
    (positions : PositionSet) (q : Path) (fault : SyntaxFault) :
    (fixText (.ofParser parse) path positions .range source).result ≠ .error (.rejected q fault) := by
  intro hrejected
  obtain ⟨e, hloc, hres⟩ | ⟨loc, events, hloc, ⟨-, hres⟩ | ⟨r, d, hfix, hres | hres⟩⟩ :=
    fixText_cases (.ofParser parse) path positions .range source
  · rw [hres] at hrejected
    simp only [locatorFor] at hloc
    split at hloc
    · cases hloc
    · cases hloc
      cases hrejected
  · rw [hres] at hrejected
    cases hrejected
  · rw [hres] at hrejected
    cases hrejected
  · obtain ⟨-, -, fault', hcheck, -⟩ := hres
    obtain ⟨tokens, htokens, rfl⟩ := locatorFor_range hloc
    rw [h.check_fix? htokens hfix] at hcheck
    cases hcheck

end

section

variable {analyzer : Analyzer} {path q : Path} {positions : PositionSet} {fault : SyntaxFault}
  {σ : Type} {store : Store (StateM σ)} {s : σ}

/-- A preview rejects what a fix of the loaded text rejects. -/
theorem previewFile_rejected {strategy : Strategy} {text : String}
    (hload : ((store.load path).run s).1 = .ok text)
    (h : ((previewFile analyzer path positions strategy store).run s).1.result =
      .error (.rejected q fault)) :
    (fixText analyzer path positions strategy text).result = .error (.rejected q fault) := by
  rw [run_previewFile, hload] at h
  split at h
  · cases h
  · exact h

/-- Only the preview of a fix rejects anything. -/
theorem fixFile_rejected {strategy : Strategy}
    (h : ((fixFile analyzer path positions strategy store).run s).1.result =
      .error (.rejected q fault)) :
    ((previewFile analyzer path positions strategy store).run s).1.result =
      .error (.rejected q fault) := by
  rcases hp : (previewFile analyzer path positions strategy store).run s with
    ⟨⟨events, e | fix⟩, s'⟩
  · rw [run_fixFile_of_error hp] at h
    exact h
  · cases hc : fix.report.changed with
    | false =>
      rw [run_fixFile_of_unchanged hp hc] at h
      cases h
    | true =>
      rcases hw : (store.persist path fix.updated).run s' with ⟨_ | _, s''⟩
      · rw [run_fixFile_of_unwritten hp hc hw] at h
        cases h
      · rw [run_fixFile_of_written hp hc hw] at h
        cases h

end

/-- Whatever store the source comes from, no preview by range and no fix by range is rejected. -/
def NeverRejected (parse : String → Except SyntaxFault Tree) (source : String) : Prop :=
  ∀ (σ : Type) (store : Store (StateM σ)) (s : σ) (path : Path) (positions : PositionSet),
    ((store.load path).run s).1 = .ok source → ∀ (q : Path) (fault : SyntaxFault),
      ((previewFile (.ofParser parse) path positions .range store).run s).1.result ≠
          .error (.rejected q fault) ∧
        ((fixFile (.ofParser parse) path positions .range store).run s).1.result ≠
          .error (.rejected q fault)

/-- **A rewrite by range passes the structure check.** The parser is any function that puts the
literals of its tree where they stand in the source, flawed or not, and gives the same tree for the
texts with letters of long literals raised. -/
theorem Analyzer.range_rewrite_accepted (parse : String → Except SyntaxFault Tree) (source : String)
    (h : KeepsTree parse source) :
    (∀ tree, parse source = .ok tree → ∃ tokens,
        (ofParser parse).literals source = .ok tokens ∧
          ∀ positions : PositionSet, positions.isEmpty = false → ∃ r d,
            (Locator.range tokens).fix? (Document.parse source) positions = some (r, d) ∧
              (ofParser parse).check source d.render = .ok ()) ∧
      NeverRejected parse source := by
  refine ⟨fun tree hparse => ?_, fun σ store s path positions hload q fault => ?_⟩
  · obtain ⟨tokens, htokens, -⟩ := h.literals hparse
    refine ⟨tokens, htokens, fun positions hne => ?_⟩
    have hfix := Locator.fix?_eq_some (d := Document.parse source) (.range tokens) hne
    exact ⟨_, _, hfix, h.check_fix? htokens hfix⟩
  · have hnever := h.fixText_ne_rejected path positions q fault
    exact ⟨fun hp => hnever (previewFile_rejected hload hp),
      fun hf => hnever (previewFile_rejected hload (fixFile_rejected hf))⟩

theorem Sample.keepsTree {source : String}
    (h : ∀ n ∈ (Java.parse (.ofList (lowered source.toList))).literalNodes,
      n.ReadsWith source.toList fun _ _ => True) : KeepsTree parse source := by
  refine ⟨fun tree hparse => ?_, fun tree _ => steady_parse tree⟩
  cases hparse
  exact h

/-- The last semicolon is missing, and the parser puts it in. -/
def Sample.openSource : String := "é=12l+0xFl;\r\nb=7l"

def Sample.openTree : Tree := Java.parse (.ofList (lowered openSource.toList))

theorem Analyzer.range_rewrite_accepted_sample :
    KeepsTree Sample.parse Sample.openSource ∧ Sample.openTree.errors = [(18, 18)] ∧
      (ofParser Sample.parse).literals Sample.openSource = .ok Sample.sourceTokens ∧
      (∃ r d, (Locator.range Sample.sourceTokens).fix? (Document.parse Sample.openSource)
          Sample.sourceLetters = some (r, d) ∧
        (ofParser Sample.parse).check Sample.openSource d.render = .ok ()) ∧
      ∀ q fault, ((fixFile (.ofParser Sample.parse) ⟨"S.java"⟩ Sample.sourceLetters .range
        Memory.medium.store).run ⟨[(⟨"S.java"⟩, Sample.openSource)], [], [], []⟩).1.result ≠
          .error (.rejected q fault) := by
  have hliterals : (ofParser Sample.parse).literals Sample.openSource =
      .ok Sample.sourceTokens := by decide +kernel
  have hkeeps : KeepsTree Sample.parse Sample.openSource := Sample.keepsTree (by decide +kernel)
  obtain ⟨hfix, hnever⟩ := range_rewrite_accepted Sample.parse Sample.openSource hkeeps
  obtain ⟨tokens, htokens, hbatch⟩ := hfix Sample.openTree rfl
  obtain rfl := Except.ok.inj (hliterals.symm.trans htokens)
  exact ⟨hkeeps, by decide +kernel, hliterals, hbatch _ (by decide),
    fun q fault => (hnever _ _ _ _ _ rfl q fault).2⟩

end LongSuffix
