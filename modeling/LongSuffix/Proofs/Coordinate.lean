import LongSuffix.Proofs.Agreement
import Mathlib.Data.List.DropRight

/-!
# What is found at a coordinate

By coordinate a letter is raised if it is an `l` behind a number: a run of word characters that
starts with a digit, has no word character in front of it and reaches up to the letter
(`NumberEndsAt`). The word is looked for backwards from the letter (`endsNumber_iff`). What the
locator says of a position is decided by that and by the bounds alone, and every edit that it gives
can be made, so nothing that it tries is ever refused without the character that was found
(`coordinate_decides`).
-/

namespace LongSuffix

/-- A number ends in front of a column: it starts with a digit, has word characters up to the column
and none in front. -/
def NumberEndsAt (text : List Char) (column : Nat) : Prop :=
  ∃ k, k < column ∧ (∃ c, text[k]? = some c ∧ c.isDigit = true) ∧
    (∀ i, k ≤ i → i < column → ∃ c, text[i]? = some c ∧ isWordChar c = true) ∧
    (k = 0 ∨ ∃ c, text[k - 1]? = some c ∧ isWordChar c = false)

/-! ## Numbers -/

section

variable {text : List Char} {column : Nat}

theorem endsNumber_eq (text : List Char) (column : Nat) :
    endsNumber text column = (wordBefore text column).head?.any Char.isDigit := by
  unfold endsNumber
  cases wordBefore text column <;> rfl

/-- The text up to a column is something that ends in no word, and then the word. -/
theorem exists_append_wordBefore (text : List Char) (column : Nat) :
    ∃ before, text.take column = before ++ wordBefore text column ∧
      (∀ c ∈ wordBefore text column, isWordChar c = true) ∧
      ∀ c, before.getLast? = some c → isWordChar c = false := by
  refine ⟨(text.take column).rdropWhile isWordChar, ?_, ?_, ?_⟩
  · exact List.rdropWhile_append_rtakeWhile.symm
  · exact fun c hc => List.mem_rtakeWhile_imp hc
  · intro c hc
    obtain ⟨hne, hlast⟩ := List.mem_getLast?_eq_getLast hc
    have := List.rdropWhile_last_not isWordChar (text.take column) hne
    rw [← hlast] at this
    simpa using this

theorem numberEndsAt_of_append {before rest : List Char} {c : Char} (h : column ≤ text.length)
    (hsplit : text.take column = before ++ c :: rest) (hdigit : c.isDigit = true)
    (hword : ∀ x ∈ c :: rest, isWordChar x = true)
    (hbefore : ∀ x, before.getLast? = some x → isWordChar x = false) :
    NumberEndsAt text column := by
  have hlen := congrArg List.length hsplit
  simp only [List.length_take, Nat.min_eq_left h, List.length_append, List.length_cons] at hlen
  have hat (i : Nat) (hi : i < column) : text[i]? = (before ++ c :: rest)[i]? := by
    rw [← hsplit, List.getElem?_take, if_pos hi]
  refine ⟨before.length, by omega, ⟨c, ?_, hdigit⟩, fun i hi hi' => ?_, ?_⟩
  · rw [hat _ (by omega), List.getElem?_append_right (Nat.le_refl _), Nat.sub_self]
    rfl
  · have hlt : i - before.length < (c :: rest).length := by simp only [List.length_cons]; omega
    refine ⟨_, ?_, hword _ (List.getElem_mem hlt)⟩
    rw [hat i hi', List.getElem?_append_right hi, List.getElem?_eq_getElem hlt]
  · cases hlast : before.getLast? with
    | none => exact .inl (by rw [List.getLast?_eq_none_iff.1 hlast]; rfl)
    | some x =>
      have hpos := List.length_pos_of_ne_nil (List.ne_nil_of_mem (List.mem_of_getLast? hlast))
      refine .inr ⟨x, ?_, hbefore x hlast⟩
      rw [hat _ (by omega), List.getElem?_append_left (by omega), ← List.getLast?_eq_getElem?, hlast]

/-- The word in front of a column, from where it starts. -/
theorem wordBefore_eq_drop {k : Nat} (hk : k < column) (h : column ≤ text.length)
    (hword : ∀ i, k ≤ i → i < column → ∃ c, text[i]? = some c ∧ isWordChar c = true)
    (hfirst : k = 0 ∨ ∃ c, text[k - 1]? = some c ∧ isWordChar c = false) :
    wordBefore text column = (text.take column).drop k := by
  have hin : ∀ c ∈ (text.take column).drop k, isWordChar c = true := by
    intro c hc
    obtain ⟨i, hi⟩ := List.mem_iff_getElem?.1 hc
    rw [List.getElem?_drop, List.getElem?_take] at hi
    split at hi
    · next hlt =>
      obtain ⟨x, hx, hw⟩ := hword (k + i) (Nat.le_add_right k i) hlt
      rw [hi] at hx
      cases hx
      exact hw
    · cases hi
  have hbefore : ∀ c, (text.take k).getLast? = some c → isWordChar c = false := by
    intro c hc
    rw [List.getLast?_eq_getElem?, List.length_take, Nat.min_eq_left (by omega)] at hc
    obtain rfl | ⟨x, hx, hw⟩ := hfirst
    · cases hc
    · rw [List.getElem?_take] at hc
      split at hc
      · rw [hc] at hx
        cases hx
        exact hw
      · cases hc
  have hsep := @wordBefore_of_separate (text.take k) ((text.take column).drop k)
    (text.drop column) hin hbefore
  have hlen : (text.take k).length + ((text.take column).drop k).length = column := by
    simp only [List.length_take, List.length_drop]
    omega
  rwa [hlen, List.append_assoc, take_append_slice_append_drop text (Nat.le_of_lt hk)] at hsep

/-- Looking backwards from the column finds the number, and nothing else. -/
theorem endsNumber_iff (h : column ≤ text.length) :
    endsNumber text column = true ↔ NumberEndsAt text column := by
  rw [endsNumber_eq]
  constructor
  · intro hdigit
    obtain ⟨before, hsplit, hword, hbefore⟩ := exists_append_wordBefore text column
    cases hw : wordBefore text column with
    | nil => rw [hw] at hdigit; cases hdigit
    | cons c rest =>
      rw [hw] at hdigit hsplit hword
      exact numberEndsAt_of_append h hsplit hdigit hword hbefore
  · rintro ⟨k, hk, ⟨c, hc, hdigit⟩, hword, hfirst⟩
    rw [wordBefore_eq_drop hk h hword hfirst, List.head?_drop, List.getElem?_take,
      if_pos hk, hc]
    exact hdigit

end

/-! ## What the locator says -/

/-- What is to be said of a position: whether the document has the line, then whether the line has
the column, then whether an `l` stands there behind a number. -/
inductive DecidedAt (d : Document) (p : Position) : Located → Prop where
  | noLine (h : d.lineCount < p.line) :
    DecidedAt d p (.outOfBounds (.lineOutOfRange p.line d.lineCount))
  | noColumn {text : List Char} (hline : d.line? p.lineIndex = some text)
    (h : text.length < p.column) :
    DecidedAt d p (.outOfBounds (.columnOutOfRange p.line p.column text.length))
  | suffix {text : List Char} (hline : d.line? p.lineIndex = some text)
    (hfound : text[p.columnIndex]? = some 'l') (h : NumberEndsAt text p.columnIndex) :
    DecidedAt d p (.edit (.suffix p.lineIndex p.columnIndex))
  | other {text : List Char} {c : Char} (hline : d.line? p.lineIndex = some text)
    (hfound : text[p.columnIndex]? = some c) (h : ¬ (c = 'l' ∧ NumberEndsAt text p.columnIndex)) :
    DecidedAt d p (.noMatch c)

theorem Document.line?_eq_none_iff {d : Document} {p : Position} :
    d.line? p.lineIndex = none ↔ d.lineCount < p.line := by
  rw [← p.lineIndex_add_one, Nat.lt_succ_iff]
  simp [line?, lineCount]

namespace Locator

variable {d : Document} {p : Position} {o : Located}

theorem decidedAt_locate (d : Document) (p : Position) : DecidedAt d p (coordinate.locate d p) := by
  simp only [locate, locateByCoordinate, resolve]
  cases hline : d.line? p.lineIndex with
  | none => exact .noLine (Document.line?_eq_none_iff.1 hline)
  | some text =>
    dsimp only
    cases hfound : text[p.columnIndex]? with
    | none =>
      have hle := List.getElem?_eq_none_iff.1 hfound
      exact .noColumn hline (by rw [← p.columnIndex_add_one]; omega)
    | some c =>
      have hlt := (List.getElem?_eq_some_iff.1 hfound).1
      dsimp only
      split
      · next hnumber =>
        obtain ⟨rfl, hends⟩ := hnumber
        exact .suffix hline hfound ((endsNumber_iff (Nat.le_of_lt hlt)).1 hends)
      · next hnumber =>
        exact .other hline hfound (by rwa [← endsNumber_iff (Nat.le_of_lt hlt)])

theorem locate_of_decidedAt (h : DecidedAt d p o) : coordinate.locate d p = o := by
  cases h with
  | noLine h =>
    simp only [locate, locateByCoordinate, resolve, Document.line?_eq_none_iff.2 h]
  | noColumn hline h =>
    have hfound := List.getElem?_eq_none (Nat.le_of_lt_succ (p.columnIndex_add_one.symm ▸ h))
    simp only [locate, locateByCoordinate, resolve, hline, hfound]
  | suffix hline hfound h =>
    have hlt := (List.getElem?_eq_some_iff.1 hfound).1
    rw [← endsNumber_iff (Nat.le_of_lt hlt)] at h
    simp only [locate, locateByCoordinate, resolve, hline, hfound, h, and_self, if_true]
  | other hline hfound h =>
    have hlt := (List.getElem?_eq_some_iff.1 hfound).1
    rw [← endsNumber_iff (Nat.le_of_lt hlt)] at h
    simp only [locate, locateByCoordinate, resolve, hline, hfound, if_neg h]

/-! ## What comes of it -/

theorem fixes_of_locate_coordinate {e : LineEdit} (h : coordinate.locate d p = .edit e) :
    coordinate.Fixes d p := by
  have hdecided := decidedAt_locate d p
  rw [h] at hdecided
  cases hdecided with
  | suffix hline hfound _ => exact ⟨_, _, h, hline, LineEdit.fits_suffix hfound⟩

/-- An edit that is found by coordinate is made, as far as its report goes; and in a document without
newlines in its lines the letter is raised. -/
theorem apply_of_locate_coordinate {e : LineEdit} (h : coordinate.locate d p = .edit e) :
    ∃ d', e.apply d = .ok (.applied p.line p.column, d') ∧ (d.NewlineFree → d' = d.raise p) := by
  have hdecided := decidedAt_locate d p
  rw [h] at hdecided
  cases hdecided with
  | suffix hline hfound _ =>
    have happly := LineEdit.apply_of_applyToLine hline
      (LineEdit.applyToLine_of_fits (LineEdit.fits_suffix hfound) (LineEdit.aimsAt_suffix p))
    have hline : (LineEdit.suffix p.lineIndex p.columnIndex).lineIndex + 1 = p.line :=
      p.lineIndex_add_one
    have hcolumn : (LineEdit.suffix p.lineIndex p.columnIndex).start + 1 = p.column :=
      p.columnIndex_add_one
    rw [hline, hcolumn] at happly
    refine ⟨_, happly, fun hfree => ?_⟩
    rw [apply_of_fixes hfree (fixes_of_locate_coordinate h) h] at happly
    exact (Prod.mk.inj (Except.ok.inj happly)).2.symm

theorem status_attempt_coordinate_ne (d : Document) (p : Position) :
    (coordinate.attempt d p).1.status ≠ .noMatch none := by
  unfold attempt
  cases h : coordinate.locate d p with
  | edit e =>
    obtain ⟨d', happly, -⟩ := apply_of_locate_coordinate h
    simp [happly, Attempt.status]
  | outOfBounds e => simp [Attempt.status]
  | noMatch c => simp [Attempt.status]
  | unsupported reason => simp [Attempt.status]

theorem status_attemptAll_coordinate_ne (d : Document) (l : List Position) :
    ∀ o ∈ (coordinate.attemptAll d l).1, o.status ≠ .noMatch none := by
  induction l generalizing d with
  | nil => simp [attemptAll]
  | cons p l ih =>
    intro o ho
    rw [attemptAll_cons] at ho
    rcases List.mem_cons.1 ho with rfl | ho
    · exact status_attempt_coordinate_ne d p
    · exact ih _ o ho

/-- **By coordinate, what is said of a position is decided by what stands there.** Every edit that is
found is made, so a batch tells the character for each letter that it does not raise. -/
theorem coordinate_decides :
    (∀ (d : Document) (p : Position) (o : Located),
      coordinate.locate d p = o ↔ DecidedAt d p o) ∧
    (∀ (d : Document) (p : Position) (e : LineEdit), coordinate.locate d p = .edit e →
      ∃ d', e.apply d = .ok (.applied p.line p.column, d') ∧ (d.NewlineFree → d' = d.raise p)) ∧
    ∀ (d : Document) (ps : PositionSet), ps.isEmpty = false →
      ∃ r d', coordinate.fix? d ps = some (r, d') ∧
        ∀ o ∈ r.outcomes, o.status ≠ .noMatch none := by
  refine ⟨fun d p o => ⟨?_, locate_of_decidedAt⟩, fun d p e => apply_of_locate_coordinate, ?_⟩
  · rintro rfl
    exact decidedAt_locate d p
  · intro d ps hps
    exact ⟨_, _, fix?_eq_some coordinate hps, status_attemptAll_coordinate_ne d ps.toList⟩

/-- The first `l` closes a number, the second one an identifier, and the third one a number behind a
letter that belongs to no word. -/
theorem coordinate_decides_sample :
    let d : Document := .ofLines ["0xCAFEl + cafel + é1_0l".toList]
    let ps := PositionSet.ofList [.mk 1 7, .mk 1 15, .mk 1 23, .mk 2 1]
    coordinate.locate d (.mk 1 23) = .edit (.suffix 0 22) ∧ ps.isEmpty = false ∧
      NumberEndsAt "0xCAFEl + cafel + é1_0l".toList 22 ∧
      (∃ d', (LineEdit.suffix 0 22).apply d = .ok (.applied 1 23, d')) ∧
      ∃ r d', coordinate.fix? d ps = some (r, d') ∧ ∀ o ∈ r.outcomes, o.status ≠ .noMatch none := by
  intro d ps
  have hloc : coordinate.locate d (.mk 1 23) = .edit (.suffix 0 22) := by decide
  have hps : ps.isEmpty = false := by decide
  obtain ⟨hdecides, happly, hbatch⟩ := coordinate_decides
  obtain ⟨d', hd', -⟩ := happly _ _ _ hloc
  refine ⟨hloc, hps, ?_, ⟨d', hd'⟩, hbatch d ps hps⟩
  cases (hdecides _ _ _).1 hloc with
  | suffix hline _ h => cases hline; exact h

end Locator

end LongSuffix
