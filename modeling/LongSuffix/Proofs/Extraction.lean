import LongSuffix.Proofs.Agreement
import LongSuffix.Proofs.FileRuns
import LongSuffix.Proofs.Places

/-!
# Literals of well placed trees

A tree is well placed in a source text if its places are ends of parts of the text, children lie
inside their parents, and siblings follow each other. Nothing else is asked of a parser here.
Then every literal node gives a token, the tokens stand in the order of the text, and a token
without line breaks occupies the document that the text is cut into. So a preview by range never
meets a token that is out of date or reaches over a line.
-/

namespace LongSuffix

/-! ## Lists related element by element -/

section

variable {α β : Type} {R : α → β → Prop} {as : List α} {bs : List β}

theorem exists_of_forall₂_of_mem (h : List.Forall₂ R as bs) {b : β} (hb : b ∈ bs) :
    ∃ a ∈ as, R a b := by
  induction h with
  | nil => cases hb
  | cons hab _ ih =>
    rcases List.mem_cons.1 hb with rfl | hb
    · exact ⟨_, List.mem_cons_self, hab⟩
    · obtain ⟨a, ha, hr⟩ := ih hb
      exact ⟨a, List.mem_cons_of_mem _ ha, hr⟩

theorem pairwise_of_forall₂ {S : α → α → Prop} {T : β → β → Prop} (h : List.Forall₂ R as bs)
    (hs : as.Pairwise S) (ht : ∀ a a' b b', R a b → R a' b' → S a a' → T b b') :
    bs.Pairwise T := by
  induction h with
  | nil => exact .nil
  | cons hab hrest ih =>
    obtain ⟨hfirst, hs⟩ := List.pairwise_cons.1 hs
    refine .cons (fun b' hb' => ?_) (ih hs)
    obtain ⟨a', ha', hr⟩ := exists_of_forall₂_of_mem hrest hb'
    exact ht _ _ _ _ hab hr (hfirst a' ha')

end

theorem LiteralKind.ofNodeKind?_eq_some {kind : String} {k : LiteralKind} :
    ofNodeKind? kind = some k ↔ kind = k.nodeKind := by
  constructor
  · intro h
    unfold ofNodeKind? at h
    split_ifs at h with hdecimal hhex hoctal hbinary
    all_goals
      cases h
      assumption
  · rintro rfl
    exact ofNodeKind?_nodeKind k

/-! ## Literal nodes -/

namespace Tree

def isLiteral (t : Tree) : Bool := (LiteralKind.ofNodeKind? t.kind).isSome

mutual

/-- The nodes of a literal kind from left to right, but none that are inside another one. -/
def literalNodes : Tree → List Tree
  | node kind start stop flawed children =>
    if (LiteralKind.ofNodeKind? kind).isSome then [node kind start stop flawed children]
    else literalNodesAll children

def literalNodesAll : List Tree → List Tree
  | [] => []
  | t :: rest => t.literalNodes ++ literalNodesAll rest

end

theorem mem_preorderAll {n : Tree} {ts : List Tree} :
    n ∈ preorderAll ts ↔ ∃ t ∈ ts, n ∈ t.preorder := by
  induction ts with
  | nil => simp [preorderAll]
  | cons t ts ih => simp [preorderAll, ih]

theorem mem_literalNodesAll {n : Tree} {ts : List Tree} :
    n ∈ literalNodesAll ts ↔ ∃ t ∈ ts, n ∈ t.literalNodes := by
  induction ts with
  | nil => simp [literalNodesAll]
  | cons t ts ih => simp [literalNodesAll, ih]

theorem mem_preorder_of_mem_literalNodes {t n : Tree} (h : n ∈ t.literalNodes) :
    n ∈ t.preorder := by
  induction t using inductionOnChildren with
  | node kind start stop flawed children ih =>
    rw [literalNodes] at h
    rw [preorder]
    split at h
    · rw [List.mem_singleton.1 h]
      exact List.mem_cons_self
    · obtain ⟨c, hc, hn⟩ := mem_literalNodesAll.1 h
      exact List.mem_cons_of_mem _ (mem_preorderAll.2 ⟨c, hc, ih c hc hn⟩)

theorem literalNodesAll_eq_filter {ts : List Tree}
    (h : ∀ t ∈ ts, t.literalNodes = t.preorder.filter isLiteral) :
    literalNodesAll ts = (preorderAll ts).filter isLiteral := by
  induction ts with
  | nil => rfl
  | cons t ts ih =>
    rw [literalNodesAll, preorderAll, List.filter_append, h t List.mem_cons_self,
      ih fun t' ht' => h t' (List.mem_cons_of_mem _ ht')]

/-- If literals have no children, all of them are found. -/
theorem literalNodes_eq_filter {t : Tree}
    (h : ∀ n ∈ t.preorder, n.isLiteral = true → n.children = []) :
    t.literalNodes = t.preorder.filter isLiteral := by
  induction t using inductionOnChildren with
  | node kind start stop flawed children ih =>
    rw [preorder] at h
    have hhead := h _ List.mem_cons_self
    have hall : literalNodesAll children = (preorderAll children).filter isLiteral := by
      refine literalNodesAll_eq_filter fun c hc => ih c hc fun n hn => h n ?_
      exact List.mem_cons_of_mem _ (mem_preorderAll.2 ⟨c, hc, hn⟩)
    rw [literalNodes, preorder]
    split
    · next hkind =>
      obtain rfl : children = [] := hhead hkind
      rw [List.filter_cons_of_pos (by exact hkind), preorderAll, List.filter_nil]
    · next hkind => rw [List.filter_cons_of_neg (by exact hkind), hall]

/-! ## Well placed trees -/

/-- The node takes up the text between two other parts of the source. -/
structure Reads (n : Tree) (source before text after : List Char) : Prop where
  source_eq : source = before ++ (text ++ after)
  start : n.start = .endOf before
  stop : n.stop = .endOf (before ++ text)

/-- The node takes up a text, and this text and what comes before it are related. -/
def ReadsWith (n : Tree) (source : List Char) (P : List Char → List Char → Prop) : Prop :=
  ∃ before text after, n.Reads source before text after ∧ P before text

/-- The two ends are looked for among the characters. -/
theorem readsWith_iff {n : Tree} {source : List Char} {P : List Char → List Char → Prop} :
    n.ReadsWith source P ↔ ∃ j ∈ List.range (source.length + 1), ∃ i ∈ List.range (j + 1),
      n.start = .endOf (source.take i) ∧ n.stop = .endOf (source.take j) ∧
        P (source.take i) ((source.take j).drop i) := by
  constructor
  · rintro ⟨before, text, after, ⟨rfl, hstart, hstop⟩, hp⟩
    refine ⟨(before ++ text).length, List.mem_range.2 ?_, before.length, List.mem_range.2 ?_, ?_⟩
    · simp only [List.length_append]
      omega
    · simp only [List.length_append]
      omega
    rw [← List.append_assoc, List.take_left, List.append_assoc, List.take_left, List.drop_left]
    exact ⟨hstart, hstop, hp⟩
  · rintro ⟨j, -, i, hi, hstart, hstop, hp⟩
    have hij : i ≤ j := Nat.lt_succ_iff.1 (List.mem_range.1 hi)
    have hupto : source.take i ++ (source.take j).drop i = source.take j := by
      have := List.take_append_drop i (source.take j)
      rwa [List.take_take, Nat.min_eq_left hij] at this
    exact ⟨_, _, source.drop j, ⟨(take_append_slice_append_drop source hij).symm, hstart,
      by rw [hupto, hstop]⟩, hp⟩

instance (n : Tree) (source : List Char) (P : List Char → List Char → Prop)
    [∀ before text, Decidable (P before text)] : Decidable (n.ReadsWith source P) :=
  decidable_of_iff _ readsWith_iff.symm

def Within (n t : Tree) : Prop := t.start.byte ≤ n.start.byte ∧ n.stop.byte ≤ t.stop.byte

def Precedes (n n' : Tree) : Prop := n.stop.byte ≤ n'.start.byte

/-- What is asked of a node and its children. -/
structure Placed (n : Tree) (source : List Char) : Prop where
  reads : n.ReadsWith source fun _ _ => True
  nested : ∀ c ∈ n.children, c.Within n
  ordered : n.children.Pairwise Precedes

instance (n : Tree) (source : List Char) : Decidable (n.Placed source) :=
  decidable_of_iff (n.ReadsWith source (fun _ _ => True) ∧
      (∀ c ∈ n.children, n.start.byte ≤ c.start.byte ∧ c.stop.byte ≤ n.stop.byte) ∧
      n.children.Pairwise fun c c' => c.stop.byte ≤ c'.start.byte)
    ⟨fun h => ⟨h.1, h.2.1, h.2.2⟩, fun h => ⟨h.reads, h.nested, h.ordered⟩⟩

def WellPlaced (t : Tree) (source : List Char) : Prop := ∀ n ∈ t.preorder, n.Placed source

instance (t : Tree) (source : List Char) : Decidable (t.WellPlaced source) :=
  inferInstanceAs (Decidable (∀ n ∈ t.preorder, n.Placed source))

theorem WellPlaced.child {t c : Tree} {source : List Char} (h : t.WellPlaced source)
    (hc : c ∈ t.children) : c.WellPlaced source := by
  cases t with
  | node kind start stop flawed children =>
    intro n hn
    refine h n ?_
    rw [preorder]
    exact List.mem_cons_of_mem _ (mem_preorderAll.2 ⟨c, hc, hn⟩)

theorem WellPlaced.root {t : Tree} {source : List Char} (h : t.WellPlaced source) :
    t.Placed source := by
  cases t with
  | node kind start stop flawed children => exact h _ (by rw [preorder]; exact List.mem_cons_self)

theorem WellPlaced.reads {t n : Tree} {source : List Char} (h : t.WellPlaced source)
    (hn : n ∈ t.literalNodes) : ∃ before text after, n.Reads source before text after := by
  obtain ⟨before, text, after, hr, -⟩ := (h n (mem_preorder_of_mem_literalNodes hn)).reads
  exact ⟨before, text, after, hr⟩

/-! ## The order of literal nodes -/

section

variable {source : List Char}

theorem WellPlaced.within {t n : Tree} (h : t.WellPlaced source) (hn : n ∈ t.literalNodes) :
    n.Within t := by
  induction t using inductionOnChildren with
  | node kind start stop flawed children ih =>
    rw [literalNodes] at hn
    split at hn
    · rw [List.mem_singleton.1 hn]
      exact ⟨le_rfl, le_rfl⟩
    · obtain ⟨c, hc, hn⟩ := mem_literalNodesAll.1 hn
      have hin : n.Within c := ih c hc (h.child hc) hn
      have hchild := h.root.nested c hc
      exact ⟨hchild.1.trans hin.1, hin.2.trans hchild.2⟩

theorem pairwise_literalNodesAll {ts : List Tree}
    (hts : ∀ t ∈ ts, t.literalNodes.Pairwise Precedes ∧ ∀ n ∈ t.literalNodes, n.Within t)
    (ho : ts.Pairwise Precedes) : (literalNodesAll ts).Pairwise Precedes := by
  induction ts with
  | nil => exact .nil
  | cons t ts ih =>
    obtain ⟨hfirst, ho⟩ := List.pairwise_cons.1 ho
    obtain ⟨⟨ht, hin⟩, hts⟩ := List.forall_mem_cons.1 hts
    refine List.pairwise_append.2 ⟨ht, ih hts ho, fun n hn n' hn' => ?_⟩
    obtain ⟨t', ht', hn'⟩ := mem_literalNodesAll.1 hn'
    -- `n` ends in `t`, which ends before `t'`, where `n'` starts.
    calc n.stop.byte ≤ t.stop.byte := (hin n hn).2
      _ ≤ t'.start.byte := hfirst t' ht'
      _ ≤ n'.start.byte := ((hts t' ht').2 n' hn').1

theorem WellPlaced.pairwise {t : Tree} (h : t.WellPlaced source) :
    t.literalNodes.Pairwise Precedes := by
  induction t using inductionOnChildren with
  | node kind start stop flawed children ih =>
    rw [literalNodes]
    split
    · exact List.pairwise_singleton _ _
    · exact pairwise_literalNodesAll
        (fun c hc => ⟨ih c hc (h.child hc), fun _ hn => (h.child hc).within hn⟩) h.root.ordered

end

end Tree

/-! ## Tokens of nodes -/

/-- The token of a literal node: its kind, its text, and its ends as positions. -/
structure Literal.IsOf (t : Literal) (source : List Char) (n : Tree) : Prop where
  kind : n.kind = t.kind.nodeKind
  place : ∃ before after, n.Reads source before t.text after ∧
    t.span.start = .endOf before ∧ t.span.stop = .endOf (before ++ t.text)

/-- The tokens of a list of nodes. -/
abbrev AreOf (source : List Char) : List Tree → List Literal → Prop :=
  List.Forall₂ fun n t => t.IsOf source n

section

variable {source before text after : List Char} {n n' : Tree}

theorem Tree.Reads.literalAt (h : n.Reads source before text after) (kind : LiteralKind) :
    ∃ t, literalAt source (splitRows source) kind n.start n.stop = .ok t ∧ t.kind = kind ∧
      t.text = text ∧ t.span.start = .endOf before ∧ t.span.stop = .endOf (before ++ text) := by
  have hordered := Position.not_endOf_append_lt before text
  have hstart : positionAt? (splitRows source) n.start = some (.endOf before) := by
    rw [h.start, h.source_eq]
    exact positionAt?_endOf _ _
  have hstop : positionAt? (splitRows source) n.stop = some (.endOf (before ++ text)) := by
    rw [h.stop, h.source_eq, ← List.append_assoc]
    exact positionAt?_endOf _ _
  have hslice : sliceBytes source n.start.byte n.stop.byte = some text := by
    rw [h.start, h.stop, h.source_eq]
    exact sliceBytes_append _ _ _
  refine ⟨⟨kind, text, .endOf before, .endOf (before ++ text)⟩, ?_, rfl, rfl, rfl, rfl⟩
  simp only [LongSuffix.literalAt, hstart, hstop, hslice, Span.of, if_neg hordered]

theorem Tree.collectLiteralsAll_ok {rows : List (List Char)} {ts : List Tree}
    (h : ∀ t ∈ ts, ∃ tokens, t.collectLiterals source rows = .ok tokens ∧
      AreOf source t.literalNodes tokens) :
    ∃ tokens, collectLiteralsAll source rows ts = .ok tokens ∧
      AreOf source (literalNodesAll ts) tokens := by
  induction ts with
  | nil => exact ⟨[], rfl, .nil⟩
  | cons t ts ih =>
    obtain ⟨⟨here, hok, hhere⟩, hts⟩ := List.forall_mem_cons.1 h
    obtain ⟨more, hok', hmore⟩ := ih hts
    refine ⟨here ++ more, ?_, List.rel_append hhere hmore⟩
    rw [collectLiteralsAll, hok, hok']
    rfl

/-- Every literal node that takes up a text gives a token. -/
theorem Tree.collectLiterals_ok {t : Tree}
    (h : ∀ n ∈ t.literalNodes, ∃ before text after, n.Reads source before text after) :
    ∃ tokens, t.collectLiterals source (splitRows source) = .ok tokens ∧
      AreOf source t.literalNodes tokens := by
  induction t using inductionOnChildren with
  | node kind start stop flawed children ih =>
    rw [collectLiterals]
    rw [literalNodes] at h ⊢
    cases hkind : LiteralKind.ofNodeKind? kind with
    | some k =>
      simp only [hkind, Option.isSome_some, if_true] at h ⊢
      obtain ⟨before, text, after, hr⟩ := h _ List.mem_cons_self
      obtain ⟨token, hok, rfl, rfl, hplace⟩ := hr.literalAt k
      refine ⟨[token], ?_, .cons ⟨?_, before, after, hr, hplace⟩ .nil⟩
      · exact congrArg (Except.map ([·])) hok
      · exact LiteralKind.ofNodeKind?_eq_some.1 hkind
    | none =>
      simp only [hkind, Option.isSome_none, Bool.false_eq_true, if_false] at h ⊢
      refine collectLiteralsAll_ok fun c hc => ih c hc fun n hn => h n ?_
      exact mem_literalNodesAll.2 ⟨c, hc, hn⟩

/-- A node takes up one text only. -/
theorem Tree.Reads.unique {before' text' after' : List Char} (h : n.Reads source before text after)
    (h' : n.Reads source before' text' after') :
    before = before' ∧ text = text' ∧ after = after' := by
  have hcut := h.source_eq.symm.trans h'.source_eq
  have hcut' : (before ++ text) ++ after = (before' ++ text') ++ after' := by
    rw [List.append_assoc, List.append_assoc, hcut]
  have hbefore : before = before' :=
    eq_of_byteLength_eq hcut (congrArg Place.byte (h.start.symm.trans h'.start))
  have hupto : before ++ text = before' ++ text' :=
    eq_of_byteLength_eq hcut' (congrArg Place.byte (h.stop.symm.trans h'.stop))
  subst hbefore
  have htext := List.append_cancel_left hupto
  subst htext
  exact ⟨rfl, rfl, List.append_cancel_left hcut'⟩

/-- What comes before a later node has the earlier node in it. -/
theorem Tree.Reads.exists_between {before' text' after' : List Char}
    (h : n.Reads source before text after) (h' : n'.Reads source before' text' after')
    (hp : n.Precedes n') : ∃ between, before' = before ++ (text ++ between) := by
  have hcut : (before ++ text) ++ after = before' ++ (text' ++ after') := by
    rw [List.append_assoc, ← h.source_eq, ← h'.source_eq]
  rw [Precedes, h.stop, h'.start] at hp
  obtain ⟨between, hb⟩ := exists_append_of_byteLength_le hcut hp
  exact ⟨between, by rw [hb, List.append_assoc]⟩

end

namespace Literal

variable {source : String} {n n' : Tree} {t t' : Literal}

/-- The earlier token starts first and ends before the later one starts. -/
def Precedes (t t' : Literal) : Prop :=
  t.span.start < t'.span.start ∧ ¬ t'.span.start < t.span.stop

theorem IsOf.precedes {source : List Char} (h : t.IsOf source n) (h' : t'.IsOf source n')
    (hne : t.text ≠ []) (hp : n.Precedes n') : t.Precedes t' := by
  obtain ⟨before, after, hr, hstart, hstop⟩ := h.place
  obtain ⟨before', after', hr', hstart', -⟩ := h'.place
  obtain ⟨between, rfl⟩ := hr.exists_between hr' hp
  rw [Precedes, hstart, hstop, hstart']
  constructor
  · exact Position.endOf_lt_endOf_append before (by simp [hne])
  · rw [← List.append_assoc]
    exact Position.not_endOf_append_lt _ _

theorem IsOf.start_lt_stop {source : List Char} (h : t.IsOf source n) (hne : t.text ≠ []) :
    t.span.start < t.span.stop := by
  obtain ⟨before, -, -, hstart, hstop⟩ := h.place
  rw [hstart, hstop]
  exact Position.endOf_lt_endOf_append before hne

/-- The token of a node stands in the document of the text, if no line break is in it. -/
theorem IsOf.occupies (h : t.IsOf source.toList n) (ht : Plain t.text) :
    t.Occupies (Document.parse source) := by
  obtain ⟨before, after, hr, hstart, hstop⟩ := h.place
  constructor
  · rw [Span.isSingleLine, hstart, hstop, beq_iff_eq]
    exact (Position.endOf_append ht.no_newline).1.symm
  · rw [hstart, hstop, Document.parse, hr.source_eq]
    exact Document.slice?_around ht before after

end Literal

/-! ## Extraction, and previews by range -/

/-- The tokens are those of the tree's literal nodes, one after the other. None is empty, and they stand
in the document of the source. -/
structure Extracts (source : String) (tree : Tree) (tokens : List Literal) : Prop where
  nodes : AreOf source.toList tree.literalNodes tokens
  ordered : tokens.Pairwise Literal.Precedes
  forwards : ∀ t ∈ tokens, t.span.start < t.span.stop
  occupies : ∀ t ∈ tokens, t.Occupies (Document.parse source)

/-- No token was out of date or could not be used. -/
def Status.IsTold (s : Status) : Prop := (∀ reason, s ≠ .unsupported reason) ∧ s ≠ .noMatch none

section

variable {parse : String → Except SyntaxFault Tree} {source : String} {tree : Tree}
  {tokens : List Literal}

theorem Analyzer.literals_ofParser (hparse : parse source = .ok tree) :
    (ofParser parse).literals source =
      tree.collectLiterals source.toList (splitRows source.toList) := by
  show (parse source >>= Tree.literals source) = tree.literals source
  rw [hparse]
  rfl

theorem extracts_of_plain (hplaced : tree.WellPlaced source.toList)
    (hplain : ∀ n ∈ tree.literalNodes, n.ReadsWith source.toList fun _ text => Plain text)
    (hnodes : AreOf source.toList tree.literalNodes tokens) :
    Extracts source tree tokens := by
  have htext : ∀ n ∈ tree.literalNodes, ∀ t : Literal, t.IsOf source.toList n → Plain t.text := by
    intro n hn t ht
    obtain ⟨before, text, after, hr, hp⟩ := hplain n hn
    obtain ⟨_, _, hr', -⟩ := ht.place
    rwa [(hr'.unique hr).2.1]
  refine ⟨hnodes, ?_, fun t ht => ?_, fun t ht => ?_⟩
  · refine pairwise_of_forall₂ hnodes (List.Pairwise.and_mem.1 hplaced.pairwise) ?_
    intro n n' t t' h h' ⟨hn, _, hp⟩
    exact h.precedes h' (htext n hn t h).ne_nil hp
  · obtain ⟨n, hn, h⟩ := exists_of_forall₂_of_mem hnodes ht
    exact h.start_lt_stop (htext n hn t h).ne_nil
  · obtain ⟨n, hn, h⟩ := exists_of_forall₂_of_mem hnodes ht
    exact h.occupies (htext n hn t h)

theorem Locator.isTold_of_fix? {d d' : Document} {positions : PositionSet} {r : FixReport}
    (hd : d.NewlineFree) (ho : ∀ t ∈ tokens, t.Occupies d)
    (h : (range tokens).fix? d positions = some (r, d')) : ∀ o ∈ r.outcomes, o.status.IsTold := by
  intro o hmem
  obtain ⟨rfl, -⟩ := eq_of_fix? h
  have hstatus : (o.position, o.status) ∈
      FixReport.statuses ⟨((range tokens).attemptAll d positions.toList).1⟩ :=
    List.mem_map_of_mem hmem
  rw [statuses_attemptAll _ hd positions.nodup, List.mem_map] at hstatus
  obtain ⟨p, -, hpair⟩ := hstatus
  rw [← (Prod.mk.inj hpair).2]
  obtain hs | ⟨e, hs⟩ | ⟨c, hs⟩ := statusOf_range_cases (p := p) hd fun t ht _ => ho t ht
  all_goals simp [Status.IsTold, hs]

theorem fixText_range {analyzer : Analyzer} {path : Path} {positions : PositionSet} {r : FixReport}
    {d : Document} (htokens : analyzer.literals source = .ok tokens)
    (hfix : (Locator.range tokens).fix? (Document.parse source) positions = some (r, d)) :
    (fixText analyzer path positions .range source).result =
        .ok ⟨path, .range, r, source, d.render, false⟩ ∨
      ∃ fault, (fixText analyzer path positions .range source).result =
        .error (.rejected path fault) := by
  simp only [fixText, locatorFor, htokens, hfix, true_and]
  split
  · split
    · exact .inl rfl
    · exact .inr ⟨_, rfl⟩
  · exact .inl rfl

/-- Whatever store the source comes from, a preview by range tells of every position what was found
there. It gives the report, unless the updated text is rejected. -/
def PreviewTells (parse : String → Except SyntaxFault Tree) (source : String)
    (tokens : List Literal) : Prop :=
  ∀ (σ : Type) (store : Store (StateM σ)) (s : σ) (path : Path) (positions : PositionSet),
    positions.isEmpty = false → ((store.load path).run s).1 = .ok source →
      let run := ((previewFile (.ofParser parse) path positions .range store).run s).1
      ∃ r d, (Locator.range tokens).fix? (Document.parse source) positions = some (r, d) ∧
        (∀ o ∈ r.outcomes, o.status.IsTold) ∧
        (run.result = .ok ⟨path, .range, r, source, d.render, false⟩ ∨
          ∃ fault, run.result = .error (.rejected path fault))

theorem previewTells (htokens : (Analyzer.ofParser parse).literals source = .ok tokens)
    (ho : ∀ t ∈ tokens, t.Occupies (Document.parse source)) : PreviewTells parse source tokens := by
  intro σ store s path positions hne hload run
  have hfix := Locator.fix?_eq_some (d := Document.parse source) (.range tokens) hne
  refine ⟨_, _, hfix, Locator.isTold_of_fix? (Document.newlineFree_parse source) ho hfix, ?_⟩
  have hrun : run = fixText (.ofParser parse) path positions .range source := by
    simp only [run, run_previewFile, hne, hload]
    rfl
  rw [hrun]
  exact fixText_range htokens hfix

end

/-- **Extracted tokens address the document that is fixed.** The parser is any function that puts
the nodes of its tree where they stand in the source. -/
theorem Analyzer.literals_address_document (parse : String → Except SyntaxFault Tree)
    (source : String) {tree : Tree} (hparse : parse source = .ok tree)
    (hplaced : tree.WellPlaced source.toList)
    (hplain : ∀ n ∈ tree.literalNodes, n.ReadsWith source.toList fun _ text => Plain text) :
    ∃ tokens, (ofParser parse).literals source = .ok tokens ∧ Extracts source tree tokens ∧
      ((∀ n ∈ tree.preorder, n.isLiteral = true → n.children = []) →
        tree.literalNodes = tree.preorder.filter Tree.isLiteral) ∧
      PreviewTells parse source tokens := by
  obtain ⟨tokens, hok, hnodes⟩ := Tree.collectLiterals_ok fun n hn => hplaced.reads hn
  have htokens := (literals_ofParser hparse).trans hok
  have hextracts := extracts_of_plain hplaced hplain hnodes
  exact ⟨tokens, htokens, hextracts, Tree.literalNodes_eq_filter,
    previewTells htokens hextracts.occupies⟩

def Sample.sourceMemory : Memory := ⟨[(⟨"S.java"⟩, source)], [], [], []⟩

theorem Analyzer.literals_address_document_sample :
    (Java.parse Sample.source).WellPlaced Sample.source.toList ∧
      (Java.parse Sample.source).literalNodes.map Tree.kind =
        ["decimal_integer_literal", "hex_integer_literal", "decimal_integer_literal"] ∧
      (∀ n ∈ (Java.parse Sample.source).literalNodes,
        n.ReadsWith Sample.source.toList fun _ text => Plain text) ∧
      ∃ tokens, Java.analyzer.literals Sample.source = .ok tokens ∧
        Extracts Sample.source (Java.parse Sample.source) tokens ∧
        ∃ r d, (Locator.range tokens).fix? (Document.parse Sample.source) Sample.sourceLetters =
            some (r, d) ∧
          (∀ o ∈ r.outcomes, o.status.IsTold) ∧
          let run := ((previewFile Java.analyzer ⟨"S.java"⟩ Sample.sourceLetters .range
            Memory.medium.store).run Sample.sourceMemory).1
          run.result = .ok ⟨⟨"S.java"⟩, .range, r, Sample.source, d.render, false⟩ ∨
            ∃ fault, run.result = .error (.rejected ⟨"S.java"⟩ fault) := by
  have htree : (Java.parse Sample.source).WellPlaced Sample.source.toList ∧
      (Java.parse Sample.source).literalNodes.map Tree.kind =
        ["decimal_integer_literal", "hex_integer_literal", "decimal_integer_literal"] ∧
      ∀ n ∈ (Java.parse Sample.source).literalNodes,
        n.ReadsWith Sample.source.toList fun _ text => Plain text := by decide +kernel
  obtain ⟨hplaced, hkinds, hplain⟩ := htree
  obtain ⟨tokens, htokens, hextracts, -, htells⟩ := literals_address_document
    (fun source => .ok (Java.parse source)) Sample.source rfl hplaced hplain
  exact ⟨hplaced, hkinds, hplain, tokens, htokens, hextracts,
    htells _ _ Sample.sourceMemory _ _ (by decide) rfl⟩

end LongSuffix
