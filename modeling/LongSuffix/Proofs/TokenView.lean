import LongSuffix.Proofs.Agreement
import Mathlib.Data.List.Pairwise

/-!
# Batches seen from the tokens

A batch goes through its positions and looks for a token that ends at each of them. The other way
round, one can go through the tokens and ask which of the positions corrects each of them. For tokens
that stand where they say and do not overlap the two come to the same: at most one token ends at a
position, and only its last character is touched (`Locator.fix?_token_by_token`).
-/

namespace LongSuffix

/-- The position is inside the span. -/
def Span.Covers (s : Span) (p : Position) : Prop := ¬ p < s.start ∧ p < s.stop

namespace Literal

/-- No position is inside the spans of both tokens. -/
def Apart (t t' : Literal) : Prop := ∀ p, t.span.Covers p → ¬ t'.span.Covers p

instance : Std.Symm Apart where
  symm _ _ h p hp' hp := h p hp hp'

theorem apart_of_le {t t' : Literal} (h : ¬ t'.span.start < t.span.stop) : t.Apart t' := by
  intro p hp hp'
  have hlt := hp.2
  have hle := hp'.1
  rw [Position.lt_def] at h hlt hle
  omega

/-- One of the positions corrects the token. -/
def Corrects (t : Literal) (candidates : List Position) (p : Position) : Prop :=
  ∃ text, t.correct candidates = .corrected p text

/-- The text of a document at the span of the token. -/
def textIn (t : Literal) (d : Document) : Option (List Char) :=
  d.slice? t.span.start.lineIndex t.span.start.columnIndex t.span.stop.columnIndex

/-- The position of a character of the token, counted from zero. -/
def place (t : Literal) (i : Nat) : Position :=
  ⟨t.span.start.line, t.span.start.column + i, t.span.start.line_pos,
    Nat.add_pos_left t.span.start.column_pos i⟩

variable {t t' : Literal} {p q : Position} {d d' : Document}

theorem lineIndex_place (t : Literal) (i : Nat) :
    (t.place i).lineIndex = t.span.start.lineIndex := rfl

theorem columnIndex_place (t : Literal) (i : Nat) :
    (t.place i).columnIndex = t.span.start.columnIndex + i := by
  have := t.span.start.column_pos
  simp only [place, Position.columnIndex]
  omega

theorem LongAt.eq (h : t.LongAt p) (h' : t.LongAt q) : p = q :=
  Option.some.inj (h.last.symm.trans h'.last)

/-! ## Where a token stands -/

namespace Occupies

variable (ho : t.Occupies d)
include ho

theorem at?_place {i : Nat} (hi : i < t.text.length) : d.at? (t.place i) = t.text[i]? := by
  obtain ⟨line, hline, -, hslice⟩ := Document.slice?_eq_some.1 ho.reads
  have hstop := ho.length_text
  rw [Document.at?, Document.char?, lineIndex_place, columnIndex_place, hline, Option.bind_some,
    ← hslice, List.getElem?_drop, List.getElem?_take, if_pos (by omega)]

theorem covers_place {i : Nat} (hi : i < t.text.length) : t.span.Covers (t.place i) := by
  have hstop := ho.length_text
  have hline := Span.line_eq_of_isSingleLine ho.singleLine
  have hfirst := t.span.start.column_pos
  have hlast := t.span.stop.column_pos
  simp only [Position.columnIndex] at hstop
  simp only [Span.Covers, Position.lt_def, place]
  omega

/-- A long literal ends at its last character. -/
theorem place_of_longAt (h : t.LongAt p) : ∃ i, i + 1 = t.text.length ∧ p = t.place i := by
  obtain ⟨digits, -, -, htext⟩ := h.reads
  obtain ⟨hline, hcolumn⟩ := Span.last_eq_some.1 h.last
  have hsingle := Span.line_eq_of_isSingleLine ho.singleLine
  have hstop := ho.length_text
  have hfirst := t.span.start.column_pos
  have hlength : t.text.length = digits.length + 1 := by rw [htext]; simp
  simp only [Position.columnIndex] at hstop
  refine ⟨digits.length, hlength.symm, Position.ext_iff'.2 ⟨?_, ?_⟩⟩
  · simp only [place]; omega
  · simp only [place]; omega

theorem length_of_longAt_place {i : Nat} (h : t.LongAt (t.place i)) : i + 1 = t.text.length := by
  obtain ⟨j, hj, hplace⟩ := ho.place_of_longAt h
  have hcolumn := congrArg Position.column hplace
  simp only [place] at hcolumn
  omega

theorem covers_of_longAt (h : t.LongAt p) : t.span.Covers p := by
  obtain ⟨i, hi, rfl⟩ := ho.place_of_longAt h
  exact ho.covers_place (by omega)

/-- What another document has at the token's span, if its lines are as long and its characters there
are known. -/
theorem textIn_of_at? (hr : d.Raises d') {text : List Char} (hlength : text.length = t.text.length)
    (hat : ∀ i < t.text.length, d'.at? (t.place i) = text[i]?) : t.textIn d' = some text := by
  obtain ⟨line, hline, hle, hslice⟩ := Document.slice?_eq_some.1 ho.reads
  obtain ⟨hnone, -⟩ | ⟨_, line', hsome, hline', hraised⟩ := hr.line? t.span.start.lineIndex
  · rw [hline] at hnone; cases hnone
  · rw [hline] at hsome; cases hsome
    have hstop := ho.length_text
    refine Document.slice?_eq_some.2 ⟨line', hline', hraised.length_eq ▸ hle, ?_⟩
    refine List.ext_getElem? fun i => ?_
    rw [List.getElem?_drop, List.getElem?_take]
    by_cases hi : i < t.text.length
    · rw [if_pos (by omega), ← hat i hi, Document.at?, Document.char?, lineIndex_place,
        columnIndex_place, hline', Option.bind_some]
    · rw [if_neg (by omega), List.getElem?_eq_none (by omega)]

end Occupies

/-! ## What the positions do to a token -/

theorem correct_cases (hs : t.span.isSingleLine = true) (candidates : List Position) :
    (∃ p ∈ candidates, t.LongAt p ∧ ∃ text, t.correctAt p = .corrected p text ∧
        t.correct candidates = .corrected p text) ∨
      (∀ p ∈ candidates, ¬ t.LongAt p) ∧ t.correct candidates = .unchanged := by
  induction candidates with
  | nil => exact .inr ⟨fun _ h => absurd h List.not_mem_nil, rfl⟩
  | cons p rest ih =>
    by_cases h : t.LongAt p
    · obtain ⟨text, hc⟩ := correctAt_of_longAt hs h
      exact .inl ⟨p, List.mem_cons_self, h, text, hc, by rw [correct, hc]⟩
    · have hrest : t.correct (p :: rest) = t.correct rest := by
        rw [correct, correctAt_of_not_longAt (fun _ => hs) h]
      rw [hrest]
      obtain ⟨q, hq, hlong, he⟩ | ⟨hnone, he⟩ := ih
      · exact .inl ⟨q, List.mem_cons_of_mem _ hq, hlong, he⟩
      · exact .inr ⟨List.forall_mem_cons.2 ⟨h, hnone⟩, he⟩

/-- The order of the positions does not matter, nor how often they come. -/
theorem corrects_iff (hs : t.span.isSingleLine = true) {candidates : List Position} :
    t.Corrects candidates p ↔ p ∈ candidates ∧ t.LongAt p := by
  obtain ⟨q, hq, hlong, text, -, he⟩ | ⟨hnone, he⟩ := correct_cases hs candidates
  · rw [Corrects, he]
    constructor
    · rintro ⟨_, ⟨⟩⟩
      exact ⟨hq, hlong⟩
    · rintro ⟨-, hp⟩
      obtain rfl := hlong.eq hp
      exact ⟨text, rfl⟩
  · rw [Corrects, he]
    constructor
    · rintro ⟨_, ⟨⟩⟩
    · rintro ⟨hp, hlong⟩
      exact absurd hlong (hnone p hp)

/-- A correction raises the last character. -/
theorem text_of_correctAt {text : List Char} (h : t.correctAt p = .corrected p text) :
    text.length = t.text.length ∧
      ∀ i < t.text.length, text[i]? = if i + 1 = t.text.length then some 'L' else t.text[i]? := by
  obtain ⟨digits, -, hbefore, hafter⟩ := (aimsAt_of_corrected h).texts
  simp only [LineEdit.token] at hbefore hafter
  rw [hbefore, hafter]
  refine ⟨by simp, fun i hi => ?_⟩
  simp only [List.length_append, List.length_singleton] at hi ⊢
  split
  · next hlast =>
    obtain rfl : i = digits.length := by omega
    exact List.getElem?_concat_length
  · next hlast =>
    rw [List.getElem?_append_left (by omega), List.getElem?_append_left (by omega)]

end Literal

/-! ## The order of the tokens -/

section

variable {tokens tokens' : List Literal} {p : Position}

/-- If at most one token ends at a position, it does not matter which one is looked at first. -/
theorem locateInTokens_perm (h : tokens.Perm tokens') (found : Char)
    (hs : ∀ t ∈ tokens, t.span.isSingleLine = true)
    (hone : tokens.Pairwise fun t t' => t.LongAt p → ¬ t'.LongAt p) :
    locateInTokens p found tokens = locateInTokens p found tokens' := by
  induction h with
  | nil => rfl
  | cons t _ ih =>
    obtain ⟨-, hs⟩ := List.forall_mem_cons.1 hs
    rw [locateInTokens, locateInTokens, ih hs (List.pairwise_cons.1 hone).2]
  | swap t t' rest =>
    obtain ⟨hs', hs, -⟩ := by simpa only [List.forall_mem_cons] using hs
    by_cases hlong : t.LongAt p
    · have hnot : ¬ t'.LongAt p :=
        fun hlong' => (List.pairwise_cons.1 hone).1 t List.mem_cons_self hlong' hlong
      simp only [locateInTokens, Literal.correctAt_of_not_longAt (fun _ => hs') hnot]
    · simp only [locateInTokens, Literal.correctAt_of_not_longAt (fun _ => hs) hlong]
  | trans h _ ih ih' =>
    rw [ih hs hone]
    refine ih' (fun t ht => hs t (h.mem_iff.2 ht)) ?_
    exact h.pairwise hone fun hnot hlong' hlong => hnot hlong hlong'

/-- A batch knows its locator by what it locates. -/
theorem Locator.fix?_congr {loc loc' : Locator} (h : ∀ d p, loc.locate d p = loc'.locate d p)
    (d : Document) (ps : PositionSet) : loc.fix? d ps = loc'.fix? d ps := by
  have hattempt : ∀ d p, loc.attempt d p = loc'.attempt d p := by
    intro d p
    unfold attempt
    rw [h]
  have hall : ∀ l d, loc.attemptAll d l = loc'.attemptAll d l := by
    intro l
    induction l with
    | nil => exact fun _ => rfl
    | cons p l ih => exact fun d => by rw [attemptAll_cons, attemptAll_cons, hattempt, ih]
  unfold fix?
  rw [hall]

end

/-! ## Batches -/

/-- What a batch does to a document, said token by token, for positions in any order. -/
structure FixReport.TokenByToken (r : FixReport) (tokens : List Literal)
    (candidates : List Position) (d d' : Document) : Prop where
  /-- A token that is corrected has its new text in the document, and any other has its old one. -/
  texts : ∀ t ∈ tokens,
    (∃ p text, t.correct candidates = .corrected p text ∧ t.textIn d' = some text) ∨
      t.correct candidates = .unchanged ∧ t.textIn d' = some t.text
  outside : ∀ p, (∀ t ∈ tokens, ¬ t.span.Covers p) → d'.at? p = d.at? p
  endings : ∀ i, d'.ending? i = d.ending? i
  fixed_iff : ∀ p, r.Fixes p ↔ ∃ t ∈ tokens, t.Corrects candidates p
  one_token : tokens.Pairwise fun t t' => ∀ p, t.Corrects candidates p → ¬ t'.Corrects candidates p

namespace Locator

variable {tokens : List Literal} {d d' : Document} {ps : PositionSet} {r : FixReport}
  {candidates : List Position} (ho : ∀ t ∈ tokens, t.Occupies d)
  (hapart : tokens.Pairwise Literal.Apart)
include ho hapart

/-- Inside a token nothing ends but this token. -/
theorem longAt_of_covers {t t' : Literal} {p : Position} (ht : t ∈ tokens) (hc : t.span.Covers p)
    (ht' : t' ∈ tokens) (hlong : t'.LongAt p) : t.LongAt p := by
  by_cases heq : t = t'
  · exact heq ▸ hlong
  · exact absurd ((ho t' ht').covers_of_longAt hlong) (hapart.forall ht ht' heq p hc)

/-- No two tokens end at one position. -/
theorem pairwise_longAt :
    tokens.Pairwise fun t t' => ∀ p, t.LongAt p → ¬ t'.LongAt p :=
  hapart.imp_of_mem fun ht ht' hne p hlong hlong' =>
    hne p ((ho _ ht).covers_of_longAt hlong) ((ho _ ht').covers_of_longAt hlong')

section

variable (hd : d.NewlineFree) (hfix : (range tokens).fix? d ps = some (r, d'))
include hd hfix

omit hapart in
theorem fixes_fix?_range {p : Position} : r.Fixes p ↔ p ∈ ps ∧ ∃ t ∈ tokens, t.LongAt p := by
  rw [fixes_fix?_iff hd hfix, fixes_range_iff fun t ht _ => ho t ht]

theorem at?_place_kept {t : Literal} (ht : t ∈ tokens) {i : Nat} (hi : i < t.text.length)
    (h : t.place i ∈ ps → ¬ t.LongAt (t.place i)) : d'.at? (t.place i) = t.text[i]? := by
  have hkept : ¬ r.Fixes (t.place i) := by
    rw [fixes_fix?_range ho hd hfix]
    rintro ⟨hp, t', ht', hlong⟩
    exact h hp (longAt_of_covers ho hapart ht ((ho t ht).covers_place hi) ht' hlong)
  rw [(describes_fix? hd hfix).kept _ hkept, (ho t ht).at?_place hi]

/-- A token that none of the positions is the end of is as it was. -/
theorem textIn_fix?_of_not_longAt {t : Literal} (ht : t ∈ tokens)
    (h : ∀ p ∈ ps, ¬ t.LongAt p) : t.textIn d' = some t.text :=
  (ho t ht).textIn_of_at? (raises_fix? hd hfix) rfl fun _ hi =>
    at?_place_kept ho hapart hd hfix ht hi (h _)

/-- A token that one of the positions is the end of has the corrected text. -/
theorem textIn_fix?_of_longAt {t : Literal} {p : Position} {text : List Char} (ht : t ∈ tokens)
    (hp : p ∈ ps) (hlong : t.LongAt p) (hc : t.correctAt p = .corrected p text) :
    t.textIn d' = some text := by
  obtain ⟨hlength, htext⟩ := Literal.text_of_correctAt hc
  refine (ho t ht).textIn_of_at? (raises_fix? hd hfix) hlength fun i hi => ?_
  rw [htext i hi]
  split
  · next hlast =>
    obtain ⟨j, hj, rfl⟩ := (ho t ht).place_of_longAt hlong
    obtain rfl : i = j := by omega
    have hfixed := (fixes_fix?_range ho hd hfix).2 ⟨hp, t, ht, hlong⟩
    exact ((describes_fix? hd hfix).raised _ hfixed).2
  · next hlast =>
    refine at?_place_kept ho hapart hd hfix ht hi fun _ hlong' => hlast ?_
    exact (ho t ht).length_of_longAt_place hlong'

theorem tokenByToken_fix? (hcandidates : ∀ p, p ∈ candidates ↔ p ∈ ps) :
    r.TokenByToken tokens candidates d d' := by
  have hcorrects : ∀ t ∈ tokens, ∀ p, t.Corrects candidates p ↔ p ∈ ps ∧ t.LongAt p := by
    intro t ht p
    rw [Literal.corrects_iff (ho t ht).singleLine, hcandidates]
  constructor
  case texts =>
    intro t ht
    obtain ⟨p, hp, hlong, text, hc, he⟩ | ⟨hnone, he⟩ :=
      Literal.correct_cases (ho t ht).singleLine candidates
    · have hp := (hcandidates p).1 hp
      exact .inl ⟨p, text, he, textIn_fix?_of_longAt ho hapart hd hfix ht hp hlong hc⟩
    · have hnone : ∀ p ∈ ps, ¬ t.LongAt p := fun p hp => hnone p ((hcandidates p).2 hp)
      exact .inr ⟨he, textIn_fix?_of_not_longAt ho hapart hd hfix ht hnone⟩
  case outside =>
    intro p hp
    refine (describes_fix? hd hfix).kept p fun hfixed => ?_
    obtain ⟨-, t, ht, hlong⟩ := (fixes_fix?_range ho hd hfix).1 hfixed
    exact hp t ht ((ho t ht).covers_of_longAt hlong)
  case endings => exact (describes_fix? hd hfix).ending
  case fixed_iff =>
    intro p
    rw [fixes_fix?_range ho hd hfix]
    constructor
    · rintro ⟨hp, t, ht, hlong⟩
      exact ⟨t, ht, (hcorrects t ht p).2 ⟨hp, hlong⟩⟩
    · rintro ⟨t, ht, hc⟩
      obtain ⟨hp, hlong⟩ := (hcorrects t ht p).1 hc
      exact ⟨hp, t, ht, hlong⟩
  case one_token =>
    refine (pairwise_longAt ho hapart).imp_of_mem fun ht ht' hone p hc hc' => ?_
    exact hone p ((hcorrects _ ht p).1 hc).2 ((hcorrects _ ht' p).1 hc').2

end

theorem locate_range_perm {tokens' : List Literal} (hperm : tokens.Perm tokens') (e : Document)
    (p : Position) : (range tokens).locate e p = (range tokens').locate e p := by
  simp only [locate, locateByRange]
  split
  · rfl
  · exact locateInTokens_perm hperm _ (fun t ht => (ho t ht).singleLine)
      ((pairwise_longAt ho hapart).imp fun hone => hone p)

end Locator

/-- **Going through the positions and going through the tokens come to the same,** for tokens that
stand in the document and do not overlap; and the tokens can be listed in any order. -/
theorem Locator.fix?_token_by_token (d : Document) (hd : d.NewlineFree) (tokens : List Literal)
    (ho : ∀ t ∈ tokens, t.Occupies d) (hapart : tokens.Pairwise Literal.Apart) (ps : PositionSet)
    (hps : ps.isEmpty = false) :
    ∃ r d', (range tokens).fix? d ps = some (r, d') ∧
      (∀ candidates : List Position, (∀ p, p ∈ candidates ↔ p ∈ ps) →
        r.TokenByToken tokens candidates d d') ∧
      ∀ tokens', tokens.Perm tokens' → (range tokens').fix? d ps = some (r, d') := by
  have hfix := fix?_eq_some (d := d) (range tokens) hps
  refine ⟨_, _, hfix, fun candidates h => tokenByToken_fix? ho hapart hd hfix h,
    fun tokens' hperm => ?_⟩
  rw [← fix?_congr (locate_range_perm ho hapart hperm), hfix]

/-- Two of the tokens touch each other. -/
def Sample.touching : Document := .parse "12l3l+0xFl;\r\n7l"

def Sample.touchingTokens : List Literal :=
  [token .decimal ['7', 'l'] 1 0, token .decimal ['3', 'l'] 0 3, token .decimal ['1', '2', 'l'] 0 0,
    token .hex ['0', 'x', 'F', 'l'] 0 6]

def Sample.touchingLetters : PositionSet := .ofList [position 0 2, position 0 9, position 1 1]

/-- The same positions, in another order and one of them twice. -/
def Sample.touchingCandidates : List Position :=
  [position 1 1, position 0 2, position 1 1, position 0 9]

theorem Locator.fix?_token_by_token_sample :
    Sample.touching.NewlineFree ∧ (∀ t ∈ Sample.touchingTokens, t.Occupies Sample.touching) ∧
      Sample.touchingTokens.Pairwise Literal.Apart ∧ Sample.touchingLetters.isEmpty = false ∧
      (∀ p, p ∈ Sample.touchingCandidates ↔ p ∈ Sample.touchingLetters) ∧
      ∃ r d', (range Sample.touchingTokens).fix? Sample.touching Sample.touchingLetters =
          some (r, d') ∧
        r.TokenByToken Sample.touchingTokens Sample.touchingCandidates Sample.touching d' ∧
        (range Sample.touchingTokens.reverse).fix? Sample.touching Sample.touchingLetters =
          some (r, d') := by
  have hd : Sample.touching.NewlineFree := Document.newlineFree_parse _
  have ho : ∀ t ∈ Sample.touchingTokens, t.Occupies Sample.touching := by decide +kernel
  have hapart : Sample.touchingTokens.Pairwise Literal.Apart := by
    have hordered : Sample.touchingTokens.Pairwise fun t t' =>
        ¬ t'.span.start < t.span.stop ∨ ¬ t.span.start < t'.span.stop := by decide
    exact hordered.imp fun h => h.elim Literal.apart_of_le fun h => symm (Literal.apart_of_le h)
  have hps : Sample.touchingLetters.isEmpty = false := by decide
  have hcandidates : ∀ p, p ∈ Sample.touchingCandidates ↔ p ∈ Sample.touchingLetters := by
    intro p
    simp only [Sample.touchingCandidates, Sample.touchingLetters, PositionSet.mem_ofList,
      List.mem_cons, List.not_mem_nil, or_false]
    grind
  obtain ⟨r, d', hfix, hview, hperm⟩ := fix?_token_by_token _ hd _ ho hapart _ hps
  exact ⟨hd, ho, hapart, hps, hcandidates, r, d', hfix, hview _ hcandidates,
    hperm _ (List.reverse_perm _).symm⟩

end LongSuffix
