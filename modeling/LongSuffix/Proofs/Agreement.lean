import LongSuffix.Proofs.Rounds
import LongSuffix.Proofs.Tokens

/-!
# The two locators agree

One locator looks at the word in front of a position, the other one looks for a token that ends
there. If the tokens are faithful to the document, what the second one finds the first one finds
too, and both edits come to the same document. By coordinate more can be fixed than by range:
`0xCAFEl` is no token of digits and an `l`, but its word starts with a digit.
-/

namespace LongSuffix

/-- The token stands in the document where its span says, and no character of a word stands just
before it. -/
structure Literal.FaithfulTo (t : Literal) (d : Document) : Prop extends t.Occupies d where
  separate : 0 < t.span.start.columnIndex →
    (d.char? t.span.start.lineIndex (t.span.start.columnIndex - 1)).any isWordChar = false

instance (t : Literal) (d : Document) : Decidable (t.FaithfulTo d) :=
  decidable_of_iff (t.Occupies d ∧ (0 < t.span.start.columnIndex →
      (d.char? t.span.start.lineIndex (t.span.start.columnIndex - 1)).any isWordChar = false))
    ⟨fun h => ⟨h.1, h.2⟩, fun h => ⟨h.toOccupies, h.separate⟩⟩

/-! ## Words -/

theorem isWordChar_of_isDigit {c : Char} (h : c.isDigit = true) : isWordChar c = true := by
  simp [isWordChar, Char.isAlphanum, h]

/-- A run of word characters with no word character in front of it is a word. -/
theorem wordBefore_of_separate {before word after : List Char}
    (hword : ∀ c ∈ word, isWordChar c = true)
    (hbefore : ∀ c, before.getLast? = some c → isWordChar c = false) :
    wordBefore (before ++ word ++ after) (before.length + word.length) = word := by
  have hreverse : ∀ c ∈ word.reverse, isWordChar c = true := fun c hc =>
    hword c (List.mem_reverse.1 hc)
  have hstop : before.reverse.takeWhile isWordChar = [] := by
    cases hb : before.reverse with
    | nil => rfl
    | cons c rest =>
      have hlast : before.getLast? = some c := by rw [List.getLast?_eq_head?_reverse, hb]; rfl
      rw [List.takeWhile_cons, if_neg (by rw [hbefore c hlast]; exact Bool.false_ne_true)]
  rw [wordBefore, ← List.length_append, List.take_left, List.reverse_append,
    List.takeWhile_append_of_pos hreverse, hstop, List.append_nil, List.reverse_reverse]

theorem LineEdit.fits_suffix {text : List Char} {i column : Nat} (h : text[column]? = some 'l') :
    (suffix i column).Fits text := by
  obtain ⟨hlt, hget⟩ := List.getElem?_eq_some_iff.1 h
  refine ⟨Nat.le_succ column, hlt, ?_⟩
  simp only [target, suffix]
  rw [List.drop_take, List.drop_eq_getElem_cons hlt, hget, Nat.add_sub_cancel_left]
  rfl

/-! ## What both locators find -/

namespace Locator

variable {tokens : List Literal} {d : Document} {p : Position} {t : Literal}

theorem locate_coordinate_of_longAt (h : t.FaithfulTo d) (hl : t.LongAt p) :
    coordinate.locate d p = .edit (.suffix p.lineIndex p.columnIndex) := by
  obtain ⟨before, digits, after, hline, hne, hdigits, hstart, hlength, hindex⟩ :=
    h.toOccupies.split hl
  have hbefore : ∀ c, before.getLast? = some c → isWordChar c = false := by
    intro c hc
    obtain ⟨init, rfl⟩ := List.getLast?_eq_some_iff.1 hc
    have hseparate := h.separate (by rw [← hstart]; simp)
    rw [Document.char?, hindex, hline, ← hstart] at hseparate
    simpa using hseparate
  have hword : ∀ c ∈ digits, isWordChar c = true := fun c hc =>
    isWordChar_of_isDigit (List.all_eq_true.1 hdigits c hc)
  have hnumber : endsNumber (before ++ digits ++ 'l' :: after) p.columnIndex = true := by
    rw [endsNumber, ← hlength, wordBefore_of_separate hword hbefore]
    cases digits with
    | nil => exact absurd rfl hne
    | cons c rest => exact (Bool.and_eq_true_iff.1 hdigits).1
  have hfound : (before ++ digits ++ 'l' :: after)[p.columnIndex]? = some 'l' := by
    rw [← hlength, ← List.length_append]
    simp
  have hresolve : resolve d p = .ok (before ++ digits ++ 'l' :: after, 'l') := by
    simp only [resolve, hline, hfound]
  simp only [locate, locateByCoordinate, hresolve, hnumber, and_self, if_true]

theorem fixes_coordinate_of_longAt (h : t.FaithfulTo d) (hl : t.LongAt p) :
    coordinate.Fixes d p := by
  obtain ⟨line, hline, hc⟩ := Option.bind_eq_some_iff.1 (h.at?_of_longAt hl)
  exact ⟨_, line, locate_coordinate_of_longAt h hl, hline, LineEdit.fits_suffix hc⟩

theorem locate_coordinate_outOfBounds {e : AddressError} :
    coordinate.locate d p = .outOfBounds e ↔ resolve d p = .error e := by
  simp only [locate, locateByCoordinate]
  cases resolve d p with
  | error e' => simp
  | ok found => simp only; split <;> simp

theorem locate_range_outOfBounds {e : AddressError}
    (hs : ∀ t ∈ tokens, t.isLowercaseLong = true → t.span.isSingleLine = true) :
    (range tokens).locate d p = .outOfBounds e ↔ resolve d p = .error e := by
  simp only [locate, locateByRange]
  cases resolve d p with
  | error e' => simp
  | ok found =>
    obtain ⟨_, -, -, _, hloc⟩ | ⟨-, hloc⟩ := locateInTokens_cases p found.2 hs
    · simp [hloc]
    · simp [hloc]

theorem apply_of_fixes {loc : Locator} {e : LineEdit} (hd : d.NewlineFree) (hf : loc.Fixes d p)
    (he : loc.locate d p = .edit e) :
    e.apply d = .ok (.applied p.line (e.start + 1), d.raise p) := by
  obtain ⟨_, line, hloc, hline, hfits⟩ := hf
  rw [he] at hloc
  cases hloc
  exact LineEdit.apply_of_fits hd hline hfits (aimsAt_of_locate he)

/-- What the two locators make of a position. -/
structure AgreeAt (tokens : List Literal) (d : Document) (p : Position) : Prop where
  outOfBounds_iff : ∀ e, (range tokens).locate d p = .outOfBounds e ↔
    coordinate.locate d p = .outOfBounds e
  edit_iff : (∃ e, (range tokens).locate d p = .edit e) ↔ ∃ t ∈ tokens, t.LongAt p
  noMatch : (∀ e, (range tokens).locate d p ≠ .outOfBounds e) →
    (∀ e, (range tokens).locate d p ≠ .edit e) →
      ∃ c, d.at? p = some c ∧ (range tokens).locate d p = .noMatch c
  same_edit : ∀ e, (range tokens).locate d p = .edit e →
    ∃ e' line column column' d', coordinate.locate d p = .edit e' ∧
      e.apply d = .ok (.applied line column, d') ∧ e'.apply d = .ok (.applied line column', d')

theorem agreeAt (hd : d.NewlineFree) (h : ∀ t ∈ tokens, t.FaithfulTo d) (p : Position) :
    AgreeAt tokens d p := by
  have ho : ∀ t ∈ tokens, t.isLowercaseLong = true → t.Occupies d :=
    fun t ht _ => (h t ht).toOccupies
  have hs : ∀ t ∈ tokens, t.isLowercaseLong = true → t.span.isSingleLine = true :=
    fun t ht _ => (h t ht).singleLine
  have hlong_of_edit : ∀ e, (range tokens).locate d p = .edit e → ∃ t ∈ tokens, t.LongAt p := by
    intro e he
    obtain ⟨_, -, -, hloc⟩ | ⟨t, ht, hlong, -⟩ | ⟨-, _, -, hloc⟩ :=
      locate_range_cases (d := d) (p := p) hs
    · rw [he] at hloc; cases hloc
    · exact ⟨t, ht, hlong⟩
    · rw [he] at hloc; cases hloc
  constructor
  case outOfBounds_iff =>
    exact fun e => (locate_range_outOfBounds hs).trans locate_coordinate_outOfBounds.symm
  case edit_iff =>
    refine ⟨fun ⟨e, he⟩ => hlong_of_edit e he, fun hlong => ?_⟩
    obtain ⟨e, -, he, -⟩ := (fixes_range_iff ho).2 hlong
    exact ⟨e, he⟩
  case noMatch =>
    intro hout hedit
    obtain ⟨e, -, -, hloc⟩ | ⟨_, -, -, _, hloc⟩ | ⟨-, hfound⟩ :=
      locate_range_cases (d := d) (p := p) hs
    · exact absurd hloc (hout e)
    · exact absurd hloc (hedit _)
    · exact hfound
  case same_edit =>
    intro e he
    obtain ⟨t, ht, hlong⟩ := hlong_of_edit e he
    have hcoordinate := locate_coordinate_of_longAt (h t ht) hlong
    exact ⟨_, _, _, _, _, hcoordinate, apply_of_fixes hd ((fixes_range_iff ho).2 ⟨t, ht, hlong⟩) he,
      apply_of_fixes hd (fixes_coordinate_of_longAt (h t ht) hlong) hcoordinate⟩

/-! ## Batches -/

/-- A batch fixes those of its positions that the locator fixes on the document as it was. -/
theorem fixes_fix?_iff {loc : Locator} {ps : PositionSet} {r : FixReport} {d' : Document}
    (hd : d.NewlineFree) (h : loc.fix? d ps = some (r, d')) :
    r.Fixes p ↔ p ∈ ps ∧ loc.Fixes d p := by
  obtain ⟨rfl, -⟩ := eq_of_fix? h
  rw [FixReport.fixes_iff, statuses_attemptAll loc hd ps.nodup, List.mem_map,
    ← statusOf_eq_fixed hd]
  constructor
  · rintro ⟨q, hq, hpair⟩
    obtain ⟨rfl, hfixed⟩ := Prod.mk.inj hpair
    exact ⟨hq, hfixed⟩
  · rintro ⟨hp, hfixed⟩
    exact ⟨p, hp, by rw [hfixed]⟩

/-- Two locators that fix the same positions of a batch come to the same document. -/
theorem document_attemptAll_congr {loc loc' : Locator} {ps : PositionSet} (hd : d.NewlineFree)
    (h : ∀ p ∈ ps, loc.Fixes d p ↔ loc'.Fixes d p) :
    (loc.attemptAll d ps.toList).2 = (loc'.attemptAll d ps.toList).2 := by
  rw [document_attemptAll loc hd ps.nodup, document_attemptAll loc' hd ps.nodup]
  congr 1
  refine List.filter_congr fun p hp => ?_
  rw [decide_eq_decide, statusOf_eq_fixed hd, statusOf_eq_fixed hd]
  exact h p hp

/-- What the two locators make of a set of positions. -/
def AgreeOn (tokens : List Literal) (d : Document) (ps : PositionSet) : Prop :=
  ∃ byRange d' byCoordinate d'',
    (range tokens).fix? d ps = some (byRange, d') ∧
      coordinate.fix? d ps = some (byCoordinate, d'') ∧
      (∀ p, byRange.Fixes p → byCoordinate.Fixes p) ∧
      ((∀ p, byCoordinate.Fixes p → ∃ t ∈ tokens, t.LongAt p) → d' = d'')

theorem agreeOn (hd : d.NewlineFree) (h : ∀ t ∈ tokens, t.FaithfulTo d) {ps : PositionSet}
    (hps : ps.isEmpty = false) : AgreeOn tokens d ps := by
  have hrange : ∀ p, (range tokens).Fixes d p ↔ ∃ t ∈ tokens, t.LongAt p :=
    fun p => fixes_range_iff fun t ht _ => (h t ht).toOccupies
  have hr := fix?_eq_some (d := d) (range tokens) hps
  have hc := fix?_eq_some (d := d) coordinate hps
  have hcoordinate : ∀ p, (range tokens).Fixes d p → coordinate.Fixes d p := by
    intro p hp
    obtain ⟨t, ht, hlong⟩ := (hrange p).1 hp
    exact fixes_coordinate_of_longAt (h t ht) hlong
  refine ⟨_, _, _, _, hr, hc, fun p hp => ?_, fun hall => ?_⟩
  · obtain ⟨hmem, hfix⟩ := (fixes_fix?_iff hd hr).1 hp
    exact (fixes_fix?_iff hd hc).2 ⟨hmem, hcoordinate p hfix⟩
  · refine document_attemptAll_congr hd fun p hp => ⟨hcoordinate p, fun hfix => ?_⟩
    exact (hrange p).2 (hall p ((fixes_fix?_iff hd hc).2 ⟨hp, hfix⟩))

end Locator

/-- **The locators agree on faithful tokens,** position by position and in batches. -/
theorem Locator.range_agrees_with_coordinate (d : Document) (hd : d.NewlineFree)
    (tokens : List Literal) (h : ∀ t ∈ tokens, t.FaithfulTo d) :
    (∀ p, AgreeAt tokens d p) ∧ ∀ ps : PositionSet, ps.isEmpty = false → AgreeOn tokens d ps :=
  ⟨agreeAt hd h, fun _ hps => agreeOn hd h hps⟩

/-- Characters of several bytes, two kinds of terminators, and a number that is no token of digits
and an `l`. -/
def Sample.source : String := "é=12l+0xFl;\r\nb=7l;"

/-- The line and the column count from zero. -/
def Sample.position (line column : Nat) : Position :=
  ⟨line + 1, column + 1, line.succ_pos, column.succ_pos⟩

def Sample.token (kind : LiteralKind) (text : List Char) (line column : Nat) : Literal :=
  ⟨kind, text, position line column, position line (column + text.length)⟩

def Sample.sourceTokens : List Literal :=
  [token .decimal "12l".toList 0 2, token .hex "0xFl".toList 0 6, token .decimal "7l".toList 1 2]

def Sample.sourceLetters : PositionSet := .ofList [position 0 4, position 0 9, position 1 3]

theorem Locator.range_agrees_with_coordinate_sample :
    (Document.parse Sample.source).NewlineFree ∧
      (∀ t ∈ Sample.sourceTokens, t.FaithfulTo (Document.parse Sample.source)) ∧
      Sample.sourceLetters.isEmpty = false ∧
      AgreeAt Sample.sourceTokens (Document.parse Sample.source) (Sample.position 0 4) ∧
      AgreeOn Sample.sourceTokens (Document.parse Sample.source) Sample.sourceLetters := by
  have hd := Document.newlineFree_parse Sample.source
  have ht : ∀ t ∈ Sample.sourceTokens, t.FaithfulTo (Document.parse Sample.source) := by
    decide +kernel
  obtain ⟨hat, hon⟩ := range_agrees_with_coordinate _ hd _ ht
  exact ⟨hd, ht, by decide, hat _, hon _ (by decide)⟩

end LongSuffix
