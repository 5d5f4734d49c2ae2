import LongSuffix.Cli.Run
import LongSuffix.Proofs.Extraction

/-!
# Scan, fix, scan again

A scan reports the suffix positions of the long literals. Fixing all of them, by coordinate or by
range, raises one letter after the other. Each time the parser gives the same tree for the new
text, and all tokens but one are as they were; so the second scan finds the first one's tokens with
their suffixes raised, and reports nothing.
-/

namespace LongSuffix

/-- Where the long literals among the tokens have their suffix. -/
def longSuffixes (tokens : List Literal) : List Position :=
  (tokens.filter Literal.isLowercaseLong).filterMap Literal.suffixPosition

/-- The token with its lower case suffix raised; other tokens stay as they are. -/
def Literal.raised (t : Literal) : Literal :=
  if t.isLowercaseLong then { t with text := t.text.dropLast ++ ['L'] } else t

/-- If a literal of the tree that reads as digits and an `l` has the letter raised, the parser gives
the same tree. -/
def Tree.Steady (tree : Tree) (parse : String → Except SyntaxFault Tree) : Prop :=
  ∀ before digits after, ∀ n ∈ tree.literalNodes,
    digits ≠ [] → digits.all Char.isDigit = true →
    n.Reads (before ++ (digits ++ 'l' :: after)) before (digits ++ ['l']) after →
    parse (.ofList (before ++ (digits ++ 'l' :: after))) = .ok tree →
    parse (.ofList (before ++ (digits ++ 'L' :: after))) = .ok tree

/-- The node does not follow a character of a word. -/
def Tree.Separate (n : Tree) (source : List Char) : Prop :=
  n.ReadsWith source fun before _ => before.getLast?.any isWordChar = false

instance (n : Tree) (source : List Char) : Decidable (n.Separate source) :=
  inferInstanceAs (Decidable (n.ReadsWith source fun before _ =>
    before.getLast?.any isWordChar = false))

/-! ## Long literals -/

theorem plain_of_isLowercaseLong {text : List Char} (h : isLowercaseLong text = true) :
    Plain text := by
  obtain ⟨digits, -, hdigits, rfl⟩ := isLowercaseLong_iff.1 h
  have hmem : ∀ c : Char, c.isDigit = false → c ≠ 'l' → c ∉ digits ++ ['l'] := by
    intro c hc hne hin
    rcases List.mem_append.1 hin with hin | hin
    · exact not_mem_of_all_isDigit hdigits hc hin
    · exact hne (List.mem_singleton.1 hin)
  exact ⟨by simp, hmem _ (by decide) (by decide), hmem _ (by decide) (by decide)⟩

namespace Literal

variable {t t' : Literal} {n n' : Tree} {source before digits after : List Char} {p p' : Position}

@[simp] theorem isLowercaseLong_raised (t : Literal) : t.raised.isLowercaseLong = false := by
  unfold raised
  split
  · simp [isLowercaseLong, LongSuffix.isLowercaseLong, suffixStem?]
  · next h => simpa using h

/-- The source around a long literal. -/
theorem IsOf.reads_long (h : t.IsOf source n) (hl : t.isLowercaseLong = true) :
    ∃ before digits after, n.Reads source before (digits ++ ['l']) after ∧ digits ≠ [] ∧
      digits.all Char.isDigit = true ∧ t.text = digits ++ ['l'] ∧
      t.suffixPosition = some (.endOf (before ++ digits)) := by
  obtain ⟨digits, hne, hdigits, htext⟩ := isLowercaseLong_iff.1 hl
  obtain ⟨before, after, hr, -, hstop⟩ := h.place
  rw [htext] at hr hstop
  refine ⟨before, digits, after, hr, hne, hdigits, htext, Span.last_eq_some.2 ?_⟩
  rw [hstop, ← List.append_assoc]
  exact Position.endOf_append (by decide)

theorem IsOf.lt_of_suffixPosition (h : t.IsOf source n) (h' : t'.IsOf source n')
    (hp : n.Precedes n') (hl : t.isLowercaseLong = true) (hl' : t'.isLowercaseLong = true)
    (hs : t.suffixPosition = some p) (hs' : t'.suffixPosition = some p') : p < p' := by
  obtain ⟨before, digits, after, hr, -, -, -, hlast⟩ := h.reads_long hl
  obtain ⟨before', digits', after', hr', -, -, -, hlast'⟩ := h'.reads_long hl'
  obtain ⟨between, rfl⟩ := hr.exists_between hr' hp
  obtain rfl := Option.some.inj (hs.symm.trans hlast)
  obtain rfl := Option.some.inj (hs'.symm.trans hlast')
  have hcut : before ++ (digits ++ ['l'] ++ between) ++ digits' =
      (before ++ digits) ++ ('l' :: (between ++ digits')) := by simp
  rw [hcut]
  exact Position.endOf_lt_endOf_append _ (List.cons_ne_nil _ _)

theorem IsOf.faithfulTo {source : String} (h : t.IsOf source.toList n) (ht : Plain t.text)
    (hs : n.Separate source.toList) : t.FaithfulTo (Document.parse source) := by
  refine ⟨h.occupies ht, fun hpos => ?_⟩
  obtain ⟨before, after, hr, hstart, -⟩ := h.place
  obtain ⟨before', _, _, hr', hword⟩ := hs
  obtain rfl := (hr'.unique hr).1
  obtain ⟨more, hline⟩ := Document.line?_around ht before' after
  have hcolumn : t.span.start.columnIndex = (lastRow before').length := by rw [hstart]; rfl
  rw [Document.char?, Document.parse, hr.source_eq, hstart, hline, ← hstart, hcolumn,
    Option.bind_some, List.getElem?_append_left (by omega), ← List.getLast?_eq_getElem?]
  cases hc : (lastRow before').getLast? with
  | none => rfl
  | some c => rwa [getLast?_of_lastRow hc] at hword

theorem IsOf.unique (h : t.IsOf source n) (h' : t'.IsOf source n) : t = t' := by
  obtain ⟨before, after, hr, hstart, hstop⟩ := h.place
  obtain ⟨before', after', hr', hstart', hstop'⟩ := h'.place
  obtain ⟨rfl, htext, -⟩ := hr.unique hr'
  have hkind : some t.kind = some t'.kind := by
    rw [← LiteralKind.ofNodeKind?_nodeKind, ← h.kind, h'.kind, LiteralKind.ofNodeKind?_nodeKind]
  obtain ⟨kind, text, ⟨start, stop⟩⟩ := t
  obtain ⟨kind', text', ⟨start', stop'⟩⟩ := t'
  simp only at htext hstart hstop hstart' hstop'
  subst htext hstart hstop hstart' hstop'
  obtain rfl : kind = kind' := Option.some.inj hkind
  rfl

/-! ## Raising the letter of one literal -/

section

variable (hr : n.Reads source before (digits ++ ['l']) after)
include hr

/-- The literal itself has the new letter in its text, and ends where it ended. -/
theorem IsOf.raise (h : t.IsOf source n) (hl : t.isLowercaseLong = true) :
    t.raised.IsOf (before ++ (digits ++ 'L' :: after)) n := by
  obtain ⟨before', after', hr', hstart, hstop⟩ := h.place
  obtain ⟨rfl, htext, -⟩ := hr'.unique hr
  have hraised : t.raised = { t with text := digits ++ ['L'] } := by
    rw [raised, if_pos hl, htext, List.dropLast_concat]
  have hends : List.Forall₂ Raised (before' ++ (digits ++ ['l']))
      (before' ++ (digits ++ ['L'])) := by
    rw [← List.append_assoc, ← List.append_assoc]
    exact raised_letter (before' ++ digits) []
  rw [htext] at hstop
  rw [hraised]
  exact ⟨h.kind, before', after, ⟨by simp, hr.start, hr.stop.trans (Place.endOf_raised hends)⟩,
    hstart, hstop.trans (Position.endOf_raised hends)⟩

theorem IsOf.raise_after (h : t'.IsOf source n') (hp : n'.Precedes n) :
    t'.IsOf (before ++ (digits ++ 'L' :: after)) n' := by
  obtain ⟨before', after', hr', hstart, hstop⟩ := h.place
  obtain ⟨between, rfl⟩ := hr'.exists_between hr hp
  exact ⟨h.kind, before', between ++ (digits ++ 'L' :: after), ⟨by simp, hr'.start, hr'.stop⟩,
    hstart, hstop⟩

theorem IsOf.raise_before (h : t'.IsOf source n') (hp : n.Precedes n') :
    t'.IsOf (before ++ (digits ++ 'L' :: after)) n' := by
  obtain ⟨before', after', hr', hstart, hstop⟩ := h.place
  obtain ⟨between, rfl⟩ := hr.exists_between hr' hp
  have hafter : after = between ++ (t'.text ++ after') := by
    have hcut := hr.source_eq.symm.trans hr'.source_eq
    simpa using hcut
  -- The letter is in front of the token, so both of its ends are ends of raised texts.
  have hstarts : List.Forall₂ Raised (before ++ (digits ++ ['l'] ++ between))
      (before ++ digits ++ 'L' :: between) := by
    have hcut : before ++ (digits ++ ['l'] ++ between) = before ++ digits ++ 'l' :: between := by
      simp
    rw [hcut]
    exact raised_letter (before ++ digits) between
  have hstops := List.rel_append hstarts (raised_refl t'.text)
  exact ⟨h.kind, _, after', ⟨by simp [hafter], hr'.start.trans (Place.endOf_raised hstarts),
      hr'.stop.trans (Place.endOf_raised hstops)⟩,
    hstart.trans (Position.endOf_raised hstarts), hstop.trans (Position.endOf_raised hstops)⟩

end

end Literal

/-- One literal of a list has its letter raised, and the others stay as they are. -/
theorem AreOf.raise {source : List Char} {nodes : List Tree} {done rest : List Literal}
    {t : Literal} (hp : nodes.Pairwise Tree.Precedes)
    (h : AreOf source nodes (done ++ t :: rest)) (hl : t.isLowercaseLong = true) :
    ∃ before digits after, ∃ n ∈ nodes, n.Reads source before (digits ++ ['l']) after ∧
      digits ≠ [] ∧ digits.all Char.isDigit = true ∧
      t.suffixPosition = some (.endOf (before ++ digits)) ∧
      AreOf (before ++ (digits ++ 'L' :: after)) nodes (done ++ t.raised :: rest) := by
  have hdone := List.forall₂_take_append _ _ _ h
  have hrest := List.forall₂_drop_append _ _ _ h
  obtain ⟨n, later, hn, hlater, hdrop⟩ := List.forall₂_cons_right_iff.1 hrest
  rw [hdrop] at hrest
  rw [← List.take_append_drop done.length nodes, hdrop] at hp ⊢
  obtain ⟨-, hpn, hpd⟩ := List.pairwise_append.1 hp
  obtain ⟨before, digits, after, hr, hne, hdigits, -, hlast⟩ := hn.reads_long hl
  refine ⟨before, digits, after, n, by simp, hr, hne, hdigits, hlast, List.rel_append ?_
    (.cons (hn.raise hr hl) ?_)⟩
  · exact ((List.forall₂_and_left _ _).2 ⟨fun n' hn' => hpd n' hn' n List.mem_cons_self, hdone⟩).imp
      fun n' t' h => h.2.raise_after hr h.1
  · exact ((List.forall₂_and_left _ _).2 ⟨(List.pairwise_cons.1 hpn).1, hlater⟩).imp
      fun n' t' h => h.2.raise_before hr h.1

/-! ## Raising the letters of all literals -/

section

variable {parse : String → Except SyntaxFault Tree} {tree : Tree} {tokens : List Literal}

theorem longSuffixes_cons (t : Literal) (tokens : List Literal) :
    longSuffixes (t :: tokens) =
      if t.isLowercaseLong then t.suffixPosition.toList ++ longSuffixes tokens
      else longSuffixes tokens := by
  unfold longSuffixes
  rw [List.filter_cons]
  split
  · cases h : t.suffixPosition <;> simp [h]
  · rfl

theorem Tree.Steady.raise {source : List Char} {done rest : List Literal} {t : Literal}
    (hsteady : tree.Steady parse) (hp : tree.literalNodes.Pairwise Precedes)
    (hparse : parse (.ofList source) = .ok tree)
    (h : AreOf source tree.literalNodes (done ++ t :: rest)) (hl : t.isLowercaseLong = true) :
    ∃ source' p, parse (.ofList source') = .ok tree ∧
      AreOf source' tree.literalNodes (done ++ t.raised :: rest) ∧ t.suffixPosition = some p ∧
      Document.raise ⟨Document.linesOf source⟩ p = ⟨Document.linesOf source'⟩ := by
  obtain ⟨before, digits, after, n, hn, hr, hne, hdigits, hlast, hraised⟩ := AreOf.raise hp h hl
  have hsource : source = before ++ (digits ++ 'l' :: after) := by simp [hr.source_eq]
  rw [hsource] at hr hparse ⊢
  refine ⟨_, _, hsteady before digits after n hn hne hdigits hr hparse, hraised, hlast, ?_⟩
  rw [← List.append_assoc, ← List.append_assoc]
  exact Document.raise_linesOf (before ++ digits) after

/-- The literals in front, `done`, have been looked at; induction over those that follow. -/
theorem Tree.Steady.raiseAll (hsteady : tree.Steady parse)
    (hp : tree.literalNodes.Pairwise Precedes) {source : List Char} {done rest : List Literal}
    (hparse : parse (.ofList source) = .ok tree)
    (h : AreOf source tree.literalNodes (done ++ rest)) :
    ∃ source', parse (.ofList source') = .ok tree ∧
      AreOf source' tree.literalNodes (done ++ rest.map Literal.raised) ∧
      (longSuffixes rest).foldl Document.raise ⟨Document.linesOf source⟩ =
        ⟨Document.linesOf source'⟩ := by
  induction rest generalizing source done with
  | nil => exact ⟨source, hparse, h, rfl⟩
  | cons t rest ih =>
    rw [longSuffixes_cons]
    by_cases hl : t.isLowercaseLong = true
    · obtain ⟨source₁, p, hparse₁, h₁, hlast, hraise⟩ := hsteady.raise hp hparse h hl
      rw [List.append_cons] at h₁
      obtain ⟨source', hparse', h', hfold⟩ := ih hparse₁ h₁
      refine ⟨source', hparse', by simpa using h', ?_⟩
      rw [if_pos hl, hlast, ← hfold, ← hraise]
      rfl
    · have hsame : t.raised = t := by rw [Literal.raised, if_neg hl]
      rw [List.append_cons] at h
      obtain ⟨source', hparse', h', hfold⟩ := ih hparse h
      exact ⟨source', hparse', by simpa [hsame] using h', by rw [if_neg hl, hfold]⟩

/-! ## What the first scan reports -/

variable {source : String}

theorem Cli.position_hits (file : Path) (tokens : List Literal) :
    (hits file tokens).map Hit.position = longSuffixes tokens := by
  simp [hits, longSuffixes, List.map_filterMap, Function.comp_def]

/-- Every long literal has a suffix position. -/
theorem AreOf.map_suffixPosition {source : List Char} {nodes : List Tree}
    (h : AreOf source nodes tokens) :
    (tokens.filter Literal.isLowercaseLong).map Literal.suffixPosition =
      (longSuffixes tokens).map some := by
  rw [longSuffixes, List.map_filterMap_some_eq_filter_map_isSome, eq_comm, List.filter_eq_self]
  simp only [List.mem_map, List.mem_filter]
  rintro _ ⟨t, ⟨ht, hl⟩, rfl⟩
  obtain ⟨n, -, hn⟩ := exists_of_forall₂_of_mem h ht
  obtain ⟨_, _, _, -, -, -, -, hlast⟩ := hn.reads_long hl
  rw [hlast]
  rfl

theorem AreOf.pairwise_longSuffixes {source : List Char} {nodes : List Tree}
    (h : AreOf source nodes tokens) (hp : nodes.Pairwise Tree.Precedes) :
    (longSuffixes tokens).Pairwise (· < ·) := by
  rw [longSuffixes, List.pairwise_filterMap, List.pairwise_filter]
  refine pairwise_of_forall₂ h hp fun n n' t t' hn hn' hnn' hl hl' p hs p' hs' => ?_
  exact hn.lt_of_suffixPosition hn' hnn' hl hl' hs hs'

theorem exists_longAt_of_mem_longSuffixes {p : Position} (h : p ∈ longSuffixes tokens) :
    ∃ t ∈ tokens, t.LongAt p := by
  obtain ⟨t, ht, hlast⟩ := List.mem_filterMap.1 h
  obtain ⟨ht, hl⟩ := List.mem_filter.1 ht
  exact ⟨t, ht, isLowercaseLong_iff.1 hl, hlast⟩

/-! ## Fixing what it reports -/

theorem Locator.document_of_fixes {loc : Locator} {d : Document} {ps : PositionSet}
    (hd : d.NewlineFree) (h : ∀ p ∈ ps, loc.Fixes d p) :
    (loc.attemptAll d ps.toList).2 = ps.toList.foldl Document.raise d := by
  rw [document_attemptAll loc hd ps.nodup, List.filter_eq_self.2]
  intro p hp
  simpa using (statusOf_eq_fixed hd).2 (h p hp)

theorem PositionSet.foldl_raise_ofList {ps : List Position} (hps : ps.Pairwise (· < ·))
    (d : Document) : (ofList ps).toList.foldl Document.raise d = ps.foldl Document.raise d := by
  have hnodup : ps.Nodup := by
    refine hps.imp ?_
    rintro p _ h rfl
    exact Position.lt_irrefl p h
  have hperm : (ofList ps).toList.Perm ps :=
    (List.perm_ext_iff_of_nodup (nodup _) hnodup).2 fun _ => mem_ofList
  exact hperm.foldl_eq' (fun p _ q _ d => d.raise_comm p q) d

/-- Both locators fix the suffix of every long literal. -/
theorem AreOf.fixes (h : AreOf source.toList tree.literalNodes tokens)
    (hs : ∀ n ∈ tree.literalNodes, n.Separate source.toList) {p : Position}
    (hp : p ∈ longSuffixes tokens) :
    Locator.coordinate.Fixes (Document.parse source) p ∧
      (Locator.range tokens).Fixes (Document.parse source) p := by
  have hfaithful : ∀ t ∈ tokens, t.isLowercaseLong = true →
      t.FaithfulTo (Document.parse source) := by
    intro t ht hl
    obtain ⟨n, hn, hof⟩ := exists_of_forall₂_of_mem h ht
    exact hof.faithfulTo (plain_of_isLowercaseLong hl) (hs n hn)
  obtain ⟨t, ht, hlong⟩ := exists_longAt_of_mem_longSuffixes hp
  constructor
  · exact Locator.fixes_coordinate_of_longAt (hfaithful t ht hlong.isLowercaseLong) hlong
  · exact (Locator.fixes_range_iff fun t ht hl => (hfaithful t ht hl).toOccupies).2 ⟨t, ht, hlong⟩

/-! ## The second scan -/

/-- Tokens of a tree's nodes are the ones that are extracted. -/
theorem Analyzer.literals_of_areOf (hparse : parse source = .ok tree)
    (h : AreOf source.toList tree.literalNodes tokens) :
    (ofParser parse).literals source = .ok tokens := by
  have hreads : ∀ n ∈ tree.literalNodes, ∃ before text after,
      n.Reads source.toList before text after := by
    intro n hn
    obtain ⟨t, -, ht⟩ := exists_of_forall₂_of_mem (List.Forall₂.flip h) hn
    obtain ⟨before, after, hr, -⟩ := ht.place
    exact ⟨before, t.text, after, hr⟩
  obtain ⟨tokens', hok, h'⟩ := Tree.collectLiterals_ok hreads
  have hsame : tokens' = tokens :=
    List.right_unique_forall₂' (fun _ _ _ ht ht' => ht.unique ht') h' h
  rw [literals_ofParser hparse, hok, hsame]

theorem Cli.hits_raised (file : Path) (tokens : List Literal) :
    hits file (tokens.map Literal.raised) = [] := by
  simp [hits]

/-- Fixing what the scan reports, by coordinate or by range, has it all fixed in one document, and
the scan of its text finds the tokens with their suffixes raised. -/
def FixSettlesScan (parse : String → Except SyntaxFault Tree) (source : String)
    (tokens : List Literal) : Prop :=
  ∃ byCoordinate byRange d,
    Locator.coordinate.fix? (Document.parse source) (.ofList (longSuffixes tokens)) =
        some (byCoordinate, d) ∧
      (Locator.range tokens).fix? (Document.parse source) (.ofList (longSuffixes tokens)) =
        some (byRange, d) ∧
      (∀ p ∈ longSuffixes tokens, byCoordinate.Fixes p ∧ byRange.Fixes p) ∧
      (Analyzer.ofParser parse).literals d.render = .ok (tokens.map Literal.raised)

theorem fixSettlesScan (hparse : parse source = .ok tree) (hplaced : tree.WellPlaced source.toList)
    (hs : ∀ n ∈ tree.literalNodes, n.Separate source.toList) (hsteady : tree.Steady parse)
    (h : AreOf source.toList tree.literalNodes tokens) (hne : longSuffixes tokens ≠ []) :
    FixSettlesScan parse source tokens := by
  have hd := Document.newlineFree_parse source
  have hsorted := h.pairwise_longSuffixes hplaced.pairwise
  have hempty : (PositionSet.ofList (longSuffixes tokens)).isEmpty = false := by
    obtain ⟨p, hp⟩ := List.exists_mem_of_ne_nil _ hne
    have hmem := List.ne_nil_of_mem (PositionSet.mem_def.1 (PositionSet.mem_ofList.2 hp))
    simpa [PositionSet.isEmpty] using hmem
  -- The parser's side: one letter after the other, in the order of the tokens.
  obtain ⟨source', hparse', h', hfold⟩ := hsteady.raiseAll hplaced.pairwise
    (by rwa [String.ofList_toList]) (show AreOf source.toList _ ([] ++ tokens) from h)
  have hafter : Document.parse (.ofList source') = ⟨Document.linesOf source'⟩ := by
    rw [Document.parse, String.toList_ofList]
  -- The locators' side: a batch comes to the document with the same letters raised.
  have hdocument : ∀ loc : Locator,
      (∀ p ∈ longSuffixes tokens, loc.Fixes (Document.parse source) p) →
      loc.fix? (Document.parse source) (.ofList (longSuffixes tokens)) = some
        (⟨(loc.attemptAll (Document.parse source)
            (PositionSet.ofList (longSuffixes tokens)).toList).1⟩,
          Document.parse (.ofList source')) := by
    intro loc hloc
    rw [Locator.fix?_eq_some loc hempty, Locator.document_of_fixes hd fun p hp =>
      hloc p (PositionSet.mem_ofList.1 hp), PositionSet.foldl_raise_ofList hsorted, hafter, ← hfold]
    rfl
  have hc := hdocument .coordinate fun p hp => (h.fixes hs hp).1
  have hr := hdocument (.range tokens) fun p hp => (h.fixes hs hp).2
  refine ⟨_, _, _, hc, hr, fun p hp => ⟨?_, ?_⟩, ?_⟩
  · exact (Locator.fixes_fix?_iff hd hc).2 ⟨PositionSet.mem_ofList.2 hp, (h.fixes hs hp).1⟩
  · exact (Locator.fixes_fix?_iff hd hr).2 ⟨PositionSet.mem_ofList.2 hp, (h.fixes hs hp).2⟩
  · rw [Document.render_parse]
    exact Analyzer.literals_of_areOf hparse' (by rwa [String.toList_ofList])

end

/-- **Scanning, fixing and scanning again converges.** The parser is any function that puts the
nodes of its tree where they stand in the source and gives the same tree for the texts with letters
of long literals raised. -/
theorem scan_fix_scan_converges (parse : String → Except SyntaxFault Tree) (source : String)
    {tree : Tree} (hparse : parse source = .ok tree) (hplaced : tree.WellPlaced source.toList)
    (hseparate : ∀ n ∈ tree.literalNodes, n.Separate source.toList)
    (hsteady : tree.Steady parse) :
    ∃ tokens, (Analyzer.ofParser parse).literals source = .ok tokens ∧
      (∀ file, (Cli.hits file tokens).map Cli.Hit.position = longSuffixes tokens) ∧
      (tokens.filter Literal.isLowercaseLong).map Literal.suffixPosition =
        (longSuffixes tokens).map some ∧
      (longSuffixes tokens).Pairwise (· < ·) ∧
      (longSuffixes tokens ≠ [] → FixSettlesScan parse source tokens) ∧
      ∀ file, Cli.hits file (tokens.map Literal.raised) = [] := by
  obtain ⟨tokens, hok, h⟩ := Tree.collectLiterals_ok fun n hn => hplaced.reads hn
  have htokens := (Analyzer.literals_ofParser hparse).trans hok
  exact ⟨tokens, htokens, fun file => Cli.position_hits file tokens, h.map_suffixPosition,
    h.pairwise_longSuffixes hplaced.pairwise, fixSettlesScan hparse hplaced hseparate hsteady h,
    fun file => Cli.hits_raised file tokens⟩

def Sample.lowered (s : List Char) : List Char := s.map fun c => if c = 'L' then 'l' else c

/-- A parser that does not tell `l` and `L` apart. -/
def Sample.parse (source : String) : Except SyntaxFault Tree :=
  .ok (Java.parse (.ofList (lowered source.toList)))

theorem Sample.steady_parse (tree : Tree) : tree.Steady parse := by
  intro before digits after _ _ _ _ _ h
  have hsame : lowered (before ++ (digits ++ 'L' :: after)) =
      lowered (before ++ (digits ++ 'l' :: after)) := by
    simp [lowered]
  rw [parse, String.toList_ofList] at h ⊢
  rw [hsame, h]

def Sample.tree : Tree := Java.parse (.ofList (lowered source.toList))

theorem scan_fix_scan_converges_sample :
    Sample.parse Sample.source = .ok Sample.tree ∧ Sample.tree.WellPlaced Sample.source.toList ∧
      (∀ n ∈ Sample.tree.literalNodes, n.Separate Sample.source.toList) ∧
      Sample.tree.Steady Sample.parse ∧
      (Analyzer.ofParser Sample.parse).literals Sample.source = .ok Sample.sourceTokens ∧
      longSuffixes Sample.sourceTokens = [Sample.position 0 4, Sample.position 1 3] ∧
      FixSettlesScan Sample.parse Sample.source Sample.sourceTokens := by
  have hplaced : Sample.tree.WellPlaced Sample.source.toList ∧
      ∀ n ∈ Sample.tree.literalNodes, n.Separate Sample.source.toList := by decide +kernel
  have hliterals : (Analyzer.ofParser Sample.parse).literals Sample.source =
      .ok Sample.sourceTokens := by decide +kernel
  have hsuffixes : longSuffixes Sample.sourceTokens =
      [Sample.position 0 4, Sample.position 1 3] := by decide
  have hsteady := Sample.steady_parse Sample.tree
  obtain ⟨tokens, htokens, -, -, -, hfix, -⟩ :=
    scan_fix_scan_converges Sample.parse Sample.source rfl hplaced.1 hplaced.2 hsteady
  obtain rfl := Except.ok.inj (hliterals.symm.trans htokens)
  exact ⟨rfl, hplaced.1, hplaced.2, hsteady, hliterals, hsuffixes,
    hfix (by rw [hsuffixes]; exact List.cons_ne_nil _ _)⟩

end LongSuffix
