import LongSuffix.Batch
import LongSuffix.Proofs.Document

/-!
# Trying one position

Both locators aim at the position they are asked about: the edit ends there, expects digits and an
`l`, and puts the same digits and an `L` (`LineEdit.AimsAt`). So an edit that is made raises the one
character at the position, wherever its token came from (`attempt_of_fixes`), and an attempt that is
not made leaves the document alone. What becomes of a position depends on its own character only,
however much of the document around it was raised (`fixes_of_raises`, `statusOf_of_raises`).
-/

namespace LongSuffix

/-! ## Suffixes -/

theorem suffixStem?_eq_some {text stem : List Char} :
    suffixStem? text = some stem ↔ text = stem ++ ['l'] := by
  unfold suffixStem?
  constructor
  · intro h
    split at h
    · next hl =>
      cases h
      obtain ⟨init, rfl⟩ := List.getLast?_eq_some_iff.1 hl
      rw [List.dropLast_concat]
    · cases h
  · rintro rfl
    simp

theorem isLowercaseLong_iff {text : List Char} :
    isLowercaseLong text = true ↔
      ∃ digits, digits ≠ [] ∧ digits.all Char.isDigit = true ∧ text = digits ++ ['l'] := by
  unfold isLowercaseLong
  split
  · next digits h =>
    rw [suffixStem?_eq_some] at h
    subst h
    simp
  · next h =>
    simp only [Bool.false_eq_true, false_iff, not_exists]
    rintro digits ⟨-, -, rfl⟩
    rw [suffixStem?_eq_some.2 rfl] at h
    cases h

theorem not_mem_of_all_isDigit {digits : List Char} (h : digits.all Char.isDigit = true) {c : Char}
    (hc : c.isDigit = false) : c ∉ digits := by
  intro hm
  rw [List.all_eq_true.1 h c hm] at hc
  cases hc

/-! ## Edits that aim at a position -/

namespace LineEdit

/-- The edit raises the suffix letter at a position, behind digits that it only looks at. -/
structure AimsAt (e : LineEdit) (p : Position) : Prop where
  lineIndex : e.lineIndex = p.lineIndex
  stop : e.stop = p.columnIndex + 1
  texts : ∃ digits : List Char, digits.all Char.isDigit = true ∧
    e.expected = digits ++ ['l'] ∧ e.newText = digits ++ ['L']

/-- The range of the edit is in the line and holds what the edit expects. -/
structure Fits (e : LineEdit) (text : List Char) : Prop where
  start_le : e.start ≤ e.stop
  stop_le : e.stop ≤ text.length
  target : e.target text = e.expected

variable {e : LineEdit} {p : Position} {text : List Char}

theorem aimsAt_suffix (p : Position) : (suffix p.lineIndex p.columnIndex).AimsAt p :=
  ⟨rfl, rfl, [], rfl, rfl, rfl⟩

/-- A line that fits, cut at the letter that the edit is about. -/
theorem Fits.split (hf : e.Fits text) (h : e.AimsAt p) :
    ∃ before after, text = before ++ 'l' :: after ∧ e.patched text = before ++ 'L' :: after ∧
      before.length = p.columnIndex := by
  obtain ⟨digits, -, hexp, hnew⟩ := h.texts
  have htarget : (text.take e.stop).drop e.start = digits ++ ['l'] := hf.target.trans hexp
  have htake : text.take e.stop = text.take e.start ++ (digits ++ ['l']) := by
    rw [← htarget, take_append_slice text hf.start_le]
  have hlen := congrArg List.length htake
  simp only [List.length_take, List.length_append, List.length_singleton] at hlen
  refine ⟨text.take e.start ++ digits, text.drop e.stop, ?_, ?_, ?_⟩
  · conv_lhs => rw [← List.take_append_drop e.stop text, htake]
    simp
  · simp [patched, hnew]
  · have := h.stop; have := hf.start_le; have := hf.stop_le
    simp only [List.length_append, List.length_take]
    omega

/-- The last character that the edit looks at is the one at the position. -/
theorem AimsAt.last_of_target (h : e.AimsAt p) (hle : e.stop ≤ text.length) {stem : List Char}
    {c : Char} (ht : e.target text = stem ++ [c]) : text[p.columnIndex]? = some c := by
  have hlen := congrArg List.length ht
  simp only [target, List.length_drop, List.length_take, List.length_append,
    List.length_singleton] at hlen
  have hstop := h.stop
  have hindex : e.start + stem.length = p.columnIndex := by omega
  calc text[p.columnIndex]? = (e.target text)[stem.length]? := by
        rw [target, List.getElem?_drop, List.getElem?_take, hindex, if_pos (by omega)]
    _ = some c := by rw [ht, List.getElem?_concat_length]

theorem Fits.lower (hf : e.Fits text) (h : e.AimsAt p) : text[p.columnIndex]? = some 'l' := by
  obtain ⟨digits, -, hexp, -⟩ := h.texts
  exact h.last_of_target hf.stop_le (hf.target.trans hexp)

/-- An edit changes nothing but the letter it aims at. -/
theorem Fits.patched_eq (hf : e.Fits text) (h : e.AimsAt p) :
    e.patched text = text.set p.columnIndex 'L' := by
  obtain ⟨before, after, hline, hpatched, hlen⟩ := hf.split h
  rw [hpatched, hline, ← hlen]; simp

theorem applyToLine_of_fits (hf : e.Fits text) (h : e.AimsAt p) :
    e.applyToLine text = .ok ⟨true, text.set p.columnIndex 'L'⟩ := by
  have hne : e.target text ≠ e.newText := by
    obtain ⟨digits, -, hexp, hnew⟩ := h.texts
    rw [hf.target, hexp, hnew]
    simp
  have hrange : ¬ (e.stop < e.start ∨ text.length < e.stop) := by
    have := hf.start_le; have := hf.stop_le; omega
  rw [applyToLine_eq, if_neg hrange, if_neg hne, if_pos hf.target, hf.patched_eq h]

theorem applyToLine_of_not_fits (hf : ¬ e.Fits text) :
    e.applyToLine text = .ok ⟨false, text⟩ ∨ ∃ err, e.applyToLine text = .error err := by
  rw [applyToLine_eq]
  split
  · exact .inr ⟨_, rfl⟩
  · next hrange =>
    split
    · exact .inl rfl
    · split
      · next htarget => exact absurd ⟨by omega, by omega, htarget⟩ hf
      · exact .inr ⟨_, rfl⟩

variable {d : Document}

theorem apply_of_applyToLine {patched : List Char} (hline : d.line? e.lineIndex = some text)
    (h : e.applyToLine text = .ok ⟨true, patched⟩) :
    e.apply d = .ok (.applied (e.lineIndex + 1) (e.start + 1),
      (d.replaceLine e.lineIndex patched).getD d) := by
  simp only [apply, hline, h]

theorem apply_of_fits (hd : d.NewlineFree) (hline : d.line? p.lineIndex = some text)
    (hf : e.Fits text) (h : e.AimsAt p) :
    e.apply d = .ok (.applied p.line (e.start + 1), d.raise p) := by
  obtain ⟨l, hl, rfl⟩ := Option.map_eq_some_iff.1 hline
  have hn : '\n' ∉ l.text.set p.columnIndex 'L' := by
    intro hm
    rcases List.mem_or_eq_of_mem_set hm with hm | hm
    · exact hd.line? hline hm
    · cases hm
  have hrepl : d.replaceLine p.lineIndex (l.text.set p.columnIndex 'L') = some (d.raise p) := by
    simp [Document.replaceLine, hn, hl, Document.raise, List.modify_eq_set_getElem?]
  simp only [apply, h.lineIndex, hline, applyToLine_of_fits hf h, hrepl, Option.getD_some,
    Position.lineIndex_add_one]

theorem apply_of_not_fits (hf : ∀ text, d.line? e.lineIndex = some text → ¬ e.Fits text) :
    e.apply d = .ok (.alreadyApplied (e.lineIndex + 1), d) ∨ ∃ err, e.apply d = .error err := by
  unfold apply
  cases hline : d.line? e.lineIndex with
  | none => exact .inr ⟨_, rfl⟩
  | some text =>
    rcases applyToLine_of_not_fits (hf text hline) with heq | ⟨err, heq⟩
    · exact .inl (by simp only [heq])
    · exact .inr ⟨err, by simp only [heq]⟩

theorem target_raised {text' : List Char} (hr : List.Forall₂ Raised text text') :
    List.Forall₂ Raised (e.target text) (e.target text') :=
  List.forall₂_drop _ (List.forall₂_take _ hr)

/-- Whether an edit fits does not depend on what else is raised in its line: the digits in front of
the letter cannot be, and a letter that was raised there made no digit. -/
theorem fits_raised {text' : List Char} (h : e.AimsAt p) (hr : List.Forall₂ Raised text text')
    (hc : text'[p.columnIndex]? = text[p.columnIndex]?) : e.Fits text' ↔ e.Fits text := by
  obtain ⟨digits, hdigits, hexp, -⟩ := h.texts
  have htarget := target_raised (e := e) hr
  constructor
  · intro hf
    refine ⟨hf.start_le, hr.length_eq ▸ hf.stop_le, ?_⟩
    rw [hf.target] at htarget
    refine eq_of_raised_of_no_upper htarget ?_
    rw [hexp]
    simp [not_mem_of_all_isDigit hdigits]
  · intro hf
    have hle : e.stop ≤ text'.length := hr.length_eq ▸ hf.stop_le
    refine ⟨hf.start_le, hle, ?_⟩
    rw [hf.target, hexp] at htarget
    rcases eq_of_raised_suffix (not_mem_of_all_isDigit hdigits (by decide)) htarget with hl | hL
    · rw [hl, hexp]
    · -- the letter at the position itself would be the raised one
      rw [hf.lower h, h.last_of_target hle hL] at hc
      cases hc

end LineEdit

/-! ## What the locators aim at -/

theorem Span.lastColumn_eq_some {s : Span} {column : Nat} :
    s.lastColumn = some column ↔ 0 < column ∧ s.stop.column = column + 1 := by
  unfold lastColumn
  split
  · simp only [Option.some.injEq]; omega
  · simp only [reduceCtorEq, false_iff]; omega

/-- A token is corrected at the last character of a span in one line only. -/
theorem Literal.of_corrected {t : Literal} {p q : Position} {text : List Char}
    (h : t.correctAt p = .corrected q text) :
    q = p ∧ t.isLowercaseLong = true ∧ t.span.lastColumn = some p.column ∧
      t.span.isSingleLine = true ∧ p.line = t.span.start.line ∧ upperSuffix? t.text = some text := by
  unfold correctAt at h
  split at h
  · next hlong =>
    split at h
    · next hsingle =>
      split at h
      · next hline =>
        split at h
        · next hupper => cases h; exact ⟨rfl, hlong.1, hlong.2, hsingle, hline, hupper⟩
        · cases h
      · cases h
    · split at h <;> cases h
  · cases h

theorem Literal.aimsAt_of_corrected {t : Literal} {p q : Position} {text : List Char}
    (h : t.correctAt p = .corrected q text) :
    (LineEdit.token t.span.start.lineIndex t.span.start.columnIndex t.span.stop.columnIndex t.text
      text).AimsAt p := by
  obtain ⟨-, hlong, hlast, -, hline, hupper⟩ := of_corrected h
  obtain ⟨digits, -, hdigits, htext⟩ := isLowercaseLong_iff.1 hlong
  have hstop := (Span.lastColumn_eq_some.1 hlast).2
  rw [htext, upperSuffix?, suffixStem?_eq_some.2 rfl] at hupper
  cases hupper
  refine ⟨?_, ?_, digits, hdigits, htext, rfl⟩
  · simp only [LineEdit.token, Position.lineIndex, hline]
  · have := p.column_pos
    simp only [LineEdit.token, Position.columnIndex]
    omega

theorem aimsAt_of_locateInTokens {p : Position} {found : Char} {tokens : List Literal}
    {e : LineEdit} (h : locateInTokens p found tokens = .edit e) : e.AimsAt p := by
  induction tokens with
  | nil => cases h
  | cons t rest ih =>
    rw [locateInTokens] at h
    split at h
    · exact ih h
    · cases h
    · next hc => cases h; exact Literal.aimsAt_of_corrected hc

theorem Locator.aimsAt_of_locate {loc : Locator} {d : Document} {p : Position} {e : LineEdit}
    (h : loc.locate d p = .edit e) : e.AimsAt p := by
  cases loc with
  | coordinate =>
    simp only [locate, locateByCoordinate] at h
    split at h
    · cases h
    · split at h
      · cases h; exact LineEdit.aimsAt_suffix p
      · cases h
  | range tokens =>
    simp only [locate, locateByRange] at h
    split at h
    · cases h
    · exact aimsAt_of_locateInTokens h

/-! ## Attempts -/

/-- What is reported where no edit is made. -/
def Located.refusal : Located → Status
  | edit _ => .noMatch none
  | outOfBounds e => .outOfBounds e
  | noMatch found => .noMatch (some found)
  | unsupported reason => .unsupported reason

theorem Attempt.status_eq_fixed {a : Attempt} : a.status = .fixed ↔ a = .applied := by
  cases a <;> simp [status]

theorem Located.refusal_ne_fixed (o : Located) : o.refusal ≠ .fixed := by
  cases o <;> simp [refusal]

namespace Locator

/-- The locator finds an edit for the position, and the edit fits. -/
def Fixes (loc : Locator) (d : Document) (p : Position) : Prop :=
  ∃ e line, loc.locate d p = .edit e ∧ d.line? p.lineIndex = some line ∧ e.Fits line

/-- The status of a position that is tried on its own. -/
def statusOf (loc : Locator) (d : Document) (p : Position) : Status := (loc.attempt d p).1.status

variable {loc : Locator} {d d' : Document} {p q : Position}

theorem Fixes.lower (h : loc.Fixes d p) : d.at? p = some 'l' := by
  obtain ⟨e, line, hloc, hline, hf⟩ := h
  rw [Document.at?, Document.char?, hline]
  exact hf.lower (aimsAt_of_locate hloc)

theorem attempt_of_fixes (hd : d.NewlineFree) (h : loc.Fixes d p) :
    loc.attempt d p = (.applied, d.raise p) := by
  obtain ⟨e, line, hloc, hline, hf⟩ := h
  simp only [attempt, hloc, LineEdit.apply_of_fits hd hline hf (aimsAt_of_locate hloc)]

theorem attempt_of_not_fixes (h : ¬ loc.Fixes d p) :
    (loc.attempt d p).2 = d ∧ loc.statusOf d p = (loc.locate d p).refusal := by
  unfold statusOf attempt
  cases hloc : loc.locate d p with
  | edit e =>
    have hf : ∀ line, d.line? e.lineIndex = some line → ¬ e.Fits line := by
      rw [(aimsAt_of_locate hloc).lineIndex]
      exact fun line hline hf => h ⟨e, line, hloc, hline, hf⟩
    rcases LineEdit.apply_of_not_fits hf with heq | ⟨err, heq⟩
    · simp [heq, Attempt.status, Located.refusal]
    · simp [heq, Attempt.status, Located.refusal]
  | outOfBounds e => exact ⟨rfl, rfl⟩
  | noMatch found => exact ⟨rfl, rfl⟩
  | unsupported reason => exact ⟨rfl, rfl⟩

theorem statusOf_eq_fixed (hd : d.NewlineFree) : loc.statusOf d p = .fixed ↔ loc.Fixes d p := by
  by_cases h : loc.Fixes d p
  · simp [statusOf, attempt_of_fixes hd h, h, Attempt.status]
  · rw [(attempt_of_not_fixes h).2]
    exact ⟨fun hs => absurd hs (Located.refusal_ne_fixed _), fun hf => absurd hf h⟩

/-- An attempt raises the letter at the position, or does nothing. -/
theorem raises_attempt (hd : d.NewlineFree) : d.Raises (loc.attempt d p).2 := by
  by_cases h : loc.Fixes d p
  · rw [attempt_of_fixes hd h]; exact Document.raises_raise h.lower
  · rw [(attempt_of_not_fixes h).1]; exact .refl d

theorem at?_attempt_ne (hd : d.NewlineFree) (hq : q ≠ p) :
    (loc.attempt d p).2.at? q = d.at? q := by
  by_cases h : loc.Fixes d p
  · rw [attempt_of_fixes hd h]; exact Document.at?_raise_ne hq
  · rw [(attempt_of_not_fixes h).1]

/-! ## Attempts on raised documents -/

theorem resolve_of_raises (h : d.Raises d') (hp : d'.at? p = d.at? p) :
    (∃ e, resolve d p = .error e ∧ resolve d' p = .error e) ∨
      ∃ t t' c, resolve d p = .ok (t, c) ∧ resolve d' p = .ok (t', c) ∧
        List.Forall₂ Raised t t' := by
  unfold resolve
  unfold Document.at? Document.char? at hp
  obtain ⟨hi, hi'⟩ | ⟨t, t', hi, hi', ht⟩ := h.line? p.lineIndex
  · rw [hi, hi', h.lineCount_eq]
    exact .inl ⟨_, rfl, rfl⟩
  · rw [hi, hi'] at hp ⊢
    simp only [Option.bind_some] at hp
    simp only [hp]
    cases t[p.columnIndex]? with
    | none => exact .inl ⟨_, rfl, by rw [ht.length_eq]⟩
    | some c => exact .inr ⟨t, t', c, rfl, rfl, ht⟩

theorem locate_of_raises (h : d.Raises d') (hp : d'.at? p = d.at? p) :
    loc.locate d' p = loc.locate d p := by
  obtain ⟨e, he, he'⟩ | ⟨t, t', c, hc, hc', ht⟩ := resolve_of_raises h hp
  · cases loc <;> simp only [locate, locateByCoordinate, locateByRange, he, he']
  · cases loc with
    | coordinate => simp only [locate, locateByCoordinate, hc, hc', endsNumber_raised ht]
    | range tokens => simp only [locate, locateByRange, hc, hc']

theorem fixes_of_raises (h : d.Raises d') (hp : d'.at? p = d.at? p) :
    loc.Fixes d' p ↔ loc.Fixes d p := by
  unfold Fixes
  rw [locate_of_raises h hp]
  unfold Document.at? Document.char? at hp
  obtain ⟨hi, hi'⟩ | ⟨t, t', hi, hi', ht⟩ := h.line? p.lineIndex
  · simp [hi, hi']
  · rw [hi, hi'] at hp ⊢
    constructor
    · rintro ⟨e, _, hloc, ⟨⟩, hf⟩
      exact ⟨e, t, hloc, rfl, (LineEdit.fits_raised (aimsAt_of_locate hloc) ht hp).1 hf⟩
    · rintro ⟨e, _, hloc, ⟨⟩, hf⟩
      exact ⟨e, t', hloc, rfl, (LineEdit.fits_raised (aimsAt_of_locate hloc) ht hp).2 hf⟩

/-- What is reported for a position depends on its own character only. -/
theorem statusOf_of_raises (hd : d.NewlineFree) (h : d.Raises d') (hp : d'.at? p = d.at? p) :
    loc.statusOf d' p = loc.statusOf d p := by
  by_cases hf : loc.Fixes d p
  · rw [(statusOf_eq_fixed hd).2 hf, statusOf_eq_fixed (h.newlineFree hd)]
    exact (fixes_of_raises h hp).2 hf
  · rw [(attempt_of_not_fixes hf).2, (attempt_of_not_fixes (mt (fixes_of_raises h hp).1 hf)).2,
      locate_of_raises h hp]

/-- A position that was refused stays refused: raising other letters fixes nothing. -/
theorem Fixes.of_raises (h : d.Raises d') (hf : loc.Fixes d' p) : loc.Fixes d p := by
  have hp : d'.at? p = d.at? p := by rw [hf.lower, h.at?_lower hf.lower]
  exact (fixes_of_raises h hp).1 hf

end Locator

end LongSuffix
