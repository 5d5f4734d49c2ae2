import LongSuffix.Proofs.Attempt

/-!
# Tokens that stand where they say

A token occupies a document if its span lies in one line and the document has the token's text
there. Of such tokens the range locator fixes exactly the ends of those that read as digits and an
`l`, and whatever else it is asked about it refuses with the character that it finds. Tokens of any
other text have no part in this, wherever they are.
-/

namespace LongSuffix

/-- The characters of a line from one column up to another one, if the line has them. -/
def Document.slice? (d : Document) (line start stop : Nat) : Option (List Char) :=
  (d.line? line).bind fun text =>
    if stop ≤ text.length then some ((text.take stop).drop start) else none

theorem Document.slice?_eq_some {d : Document} {line start stop : Nat} {s : List Char} :
    d.slice? line start stop = some s ↔
      ∃ text, d.line? line = some text ∧ stop ≤ text.length ∧ (text.take stop).drop start = s := by
  simp only [slice?, Option.bind_eq_some_iff]
  refine exists_congr fun text => and_congr_right fun _ => ?_
  split
  · next h => simp [h]
  · next h => simp [h]

theorem Span.line_eq_of_isSingleLine {s : Span} (h : s.isSingleLine = true) :
    s.start.line = s.stop.line := beq_iff_eq.1 h

theorem Span.last_eq_some {s : Span} {p : Position} :
    s.last = some p ↔ s.stop.line = p.line ∧ s.stop.column = p.column + 1 := by
  have := p.column_pos
  unfold last
  split
  · rw [Option.some.injEq, Position.ext_iff']
    simp only
    omega
  · simp only [reduceCtorEq, false_iff]
    omega

namespace Literal

/-- The span is in one line, and the document has the token's text there. -/
structure Occupies (t : Literal) (d : Document) : Prop where
  singleLine : t.span.isSingleLine = true
  reads : d.slice? t.span.start.lineIndex t.span.start.columnIndex t.span.stop.columnIndex =
    some t.text

instance (t : Literal) (d : Document) : Decidable (t.Occupies d) :=
  decidable_of_iff (t.span.isSingleLine = true ∧
      d.slice? t.span.start.lineIndex t.span.start.columnIndex t.span.stop.columnIndex =
        some t.text)
    ⟨fun h => ⟨h.1, h.2⟩, fun h => ⟨h.singleLine, h.reads⟩⟩

/-- The token reads as one or more digits and an `l`, and ends at the position. -/
structure LongAt (t : Literal) (p : Position) : Prop where
  reads : ∃ digits : List Char, digits ≠ [] ∧ digits.all Char.isDigit = true ∧
    t.text = digits ++ ['l']
  last : t.suffixPosition = some p

variable {t : Literal} {p : Position} {d : Document}

theorem LongAt.text_ne_nil (h : t.LongAt p) : t.text ≠ [] := by
  obtain ⟨digits, -, -, htext⟩ := h.reads
  simp [htext]

theorem LongAt.isLowercaseLong (h : t.LongAt p) : t.isLowercaseLong = true :=
  isLowercaseLong_iff.2 h.reads

/-! ## What is done to a token -/

theorem correctAt_of_longAt (hs : t.span.isSingleLine = true) (h : t.LongAt p) :
    ∃ text, t.correctAt p = .corrected p text := by
  obtain ⟨digits, -, -, htext⟩ := h.reads
  obtain ⟨hline, hcolumn⟩ := Span.last_eq_some.1 h.last
  have hstart : p.line = t.span.start.line := by
    rw [← hline, Span.line_eq_of_isSingleLine hs]
  have hlast : t.span.lastColumn = some p.column :=
    Span.lastColumn_eq_some.2 ⟨p.column_pos, hcolumn⟩
  refine ⟨digits ++ ['L'], ?_⟩
  rw [correctAt, if_pos ⟨h.isLowercaseLong, hlast⟩, if_pos hs, if_pos hstart, htext, upperSuffix?,
    suffixStem?_eq_some.2 rfl]
  rfl

theorem correctAt_of_not_longAt (hs : t.isLowercaseLong = true → t.span.isSingleLine = true)
    (h : ¬ t.LongAt p) : t.correctAt p = .unchanged := by
  unfold correctAt
  split
  · next hlong =>
    have hsingle := hs hlong.1
    rw [if_pos hsingle]
    split
    · next hline =>
      have hstop : t.span.stop.line = p.line := by
        rw [hline, Span.line_eq_of_isSingleLine hsingle]
      have hlast := (Span.lastColumn_eq_some.1 hlong.2).2
      exact absurd ⟨isLowercaseLong_iff.1 hlong.1, Span.last_eq_some.2 ⟨hstop, hlast⟩⟩ h
    · rfl
  · rfl

namespace Occupies

variable (ho : t.Occupies d)
include ho

/-- There is no text between two ends that come in the other order. -/
theorem length_text : t.text.length = t.span.stop.columnIndex - t.span.start.columnIndex := by
  obtain ⟨line, -, hle, hslice⟩ := Document.slice?_eq_some.1 ho.reads
  rw [← hslice, List.length_drop, List.length_take, Nat.min_eq_left hle]

theorem columnIndex_lt (h : t.text ≠ []) :
    t.span.start.columnIndex < t.span.stop.columnIndex := by
  have hlength := ho.length_text
  have hpos := List.length_pos_of_ne_nil h
  omega

/-- The edit that a token with a text gives fits where the token stands. -/
theorem fits (h : t.text ≠ []) {line text : List Char}
    (hline : d.line? t.span.start.lineIndex = some line) :
    (LineEdit.token t.span.start.lineIndex t.span.start.columnIndex t.span.stop.columnIndex t.text
      text).Fits line := by
  obtain ⟨_, hline', hle, hslice⟩ := Document.slice?_eq_some.1 ho.reads
  rw [hline] at hline'
  cases hline'
  exact ⟨Nat.le_of_lt (ho.columnIndex_lt h), hle, hslice⟩

/-- The line of a long literal, cut before the literal and before its last letter. -/
theorem split (h : t.LongAt p) :
    ∃ before digits after, d.line? p.lineIndex = some (before ++ digits ++ 'l' :: after) ∧
      digits ≠ [] ∧ digits.all Char.isDigit = true ∧
      before.length = t.span.start.columnIndex ∧ before.length + digits.length = p.columnIndex ∧
      t.span.start.lineIndex = p.lineIndex := by
  obtain ⟨digits, hne, hdigits, htext⟩ := h.reads
  obtain ⟨hstopline, hstop⟩ := Span.last_eq_some.1 h.last
  obtain ⟨line, hline, hle, hslice⟩ := Document.slice?_eq_some.1 ho.reads
  have hindex : t.span.start.lineIndex = p.lineIndex := by
    have hsingle := Span.line_eq_of_isSingleLine ho.singleLine
    simp only [Position.lineIndex, hsingle, hstopline]
  have hcolumn : t.span.stop.columnIndex = p.columnIndex + 1 := by
    have := p.column_pos
    simp only [Position.columnIndex]
    omega
  have hstart := Nat.le_of_lt (ho.columnIndex_lt h.text_ne_nil)
  have hlength := ho.length_text
  rw [htext, List.length_append, List.length_singleton] at hlength
  have hcut : line = line.take t.span.start.columnIndex ++ digits ++
      'l' :: line.drop t.span.stop.columnIndex := by
    conv_lhs => rw [← take_append_slice_append_drop line hstart, hslice, htext]
    simp
  refine ⟨line.take t.span.start.columnIndex, digits, line.drop t.span.stop.columnIndex, ?_, hne,
    hdigits, ?_, ?_, hindex⟩
  · rw [← hindex, hline, ← hcut]
  · rw [List.length_take]; omega
  · rw [List.length_take]; omega

theorem at?_of_longAt (h : t.LongAt p) : d.at? p = some 'l' := by
  obtain ⟨before, digits, after, hline, -, -, -, hlength, -⟩ := ho.split h
  rw [Document.at?, Document.char?, hline, ← hlength, ← List.length_append]
  simp

end Occupies

end Literal

/-! ## What the range locator decides -/

theorem locateInTokens_cases (p : Position) (found : Char) {tokens : List Literal}
    (hs : ∀ t ∈ tokens, t.isLowercaseLong = true → t.span.isSingleLine = true) :
    (∃ t ∈ tokens, t.LongAt p ∧ ∃ text, locateInTokens p found tokens =
        .edit (.token t.span.start.lineIndex t.span.start.columnIndex t.span.stop.columnIndex t.text
          text)) ∨
      (∀ t ∈ tokens, ¬ t.LongAt p) ∧ locateInTokens p found tokens = .noMatch found := by
  induction tokens with
  | nil => exact .inr ⟨fun _ h => absurd h List.not_mem_nil, rfl⟩
  | cons t tokens ih =>
    by_cases h : t.LongAt p
    · obtain ⟨text, hc⟩ := Literal.correctAt_of_longAt (hs t List.mem_cons_self h.isLowercaseLong) h
      exact .inl ⟨t, List.mem_cons_self, h, text, by rw [locateInTokens, hc]⟩
    · have hrest : locateInTokens p found (t :: tokens) = locateInTokens p found tokens := by
        rw [locateInTokens, Literal.correctAt_of_not_longAt (hs t List.mem_cons_self) h]
      rw [hrest]
      obtain ⟨t', ht', hlong, he⟩ | ⟨hnone, he⟩ :=
        ih fun t' ht' => hs t' (List.mem_cons_of_mem _ ht')
      · exact .inl ⟨t', List.mem_cons_of_mem _ ht', hlong, he⟩
      · exact .inr ⟨List.forall_mem_cons.2 ⟨h, hnone⟩, he⟩

theorem resolve_cases (d : Document) (p : Position) :
    (∃ e, resolve d p = .error e ∧ d.at? p = none) ∨
      ∃ text c, resolve d p = .ok (text, c) ∧ d.at? p = some c := by
  unfold resolve Document.at? Document.char?
  cases d.line? p.lineIndex with
  | none => exact .inl ⟨_, rfl, rfl⟩
  | some text =>
    simp only [Option.bind_some]
    cases text[p.columnIndex]? with
    | none => exact .inl ⟨_, rfl, rfl⟩
    | some c => exact .inr ⟨text, c, rfl, rfl⟩

namespace Locator

variable {tokens : List Literal} {d : Document} {p : Position}

/-- Out of bounds, or a token that ends at the position, or the character that is found. -/
theorem locate_range_cases
    (hs : ∀ t ∈ tokens, t.isLowercaseLong = true → t.span.isSingleLine = true) :
    (∃ e, resolve d p = .error e ∧ d.at? p = none ∧ (range tokens).locate d p = .outOfBounds e) ∨
      (∃ t ∈ tokens, t.LongAt p ∧ ∃ text, (range tokens).locate d p =
        .edit (.token t.span.start.lineIndex t.span.start.columnIndex t.span.stop.columnIndex t.text
          text)) ∨
      (∀ t ∈ tokens, ¬ t.LongAt p) ∧
        ∃ c, d.at? p = some c ∧ (range tokens).locate d p = .noMatch c := by
  obtain ⟨e, he, hnone⟩ | ⟨text, c, hok, hc⟩ := resolve_cases d p
  · exact .inl ⟨e, he, hnone, by simp only [locate, locateByRange, he]⟩
  · have hloc : (range tokens).locate d p = locateInTokens p c tokens := by
      simp only [locate, locateByRange, hok]
    rw [hloc]
    obtain h | ⟨hnone, h⟩ := locateInTokens_cases p c hs
    · exact .inr (.inl h)
    · exact .inr (.inr ⟨hnone, c, hc, h⟩)

/-- By range, the ends of the long literals among the tokens are fixed, and no other position. -/
theorem fixes_range_iff (ho : ∀ t ∈ tokens, t.isLowercaseLong = true → t.Occupies d) :
    (range tokens).Fixes d p ↔ ∃ t ∈ tokens, t.LongAt p := by
  obtain ⟨e, -, hout, hloc⟩ | ⟨t, ht, hlong, text, hloc⟩ | ⟨hnone, c, -, hloc⟩ :=
    locate_range_cases (d := d) (p := p) fun t ht hlong => (ho t ht hlong).singleLine
  · constructor
    · rintro ⟨_, _, hedit, -⟩
      rw [hloc] at hedit
      cases hedit
    · rintro ⟨t, ht, hlong⟩
      rw [(ho t ht hlong.isLowercaseLong).at?_of_longAt hlong] at hout
      cases hout
  · refine ⟨fun _ => ⟨t, ht, hlong⟩, fun _ => ?_⟩
    have hocc := ho t ht hlong.isLowercaseLong
    obtain ⟨line, hline, -, -⟩ := Document.slice?_eq_some.1 hocc.reads
    refine ⟨_, line, hloc, ?_, hocc.fits hlong.text_ne_nil hline⟩
    rw [← (aimsAt_of_locate hloc).lineIndex]
    exact hline
  · constructor
    · rintro ⟨_, _, hedit, -⟩
      rw [hloc] at hedit
      cases hedit
    · rintro ⟨t, ht, hlong⟩
      exact absurd hlong (hnone t ht)

/-- By range, no position is refused without the character that was found there. -/
theorem statusOf_range_cases (hd : d.NewlineFree)
    (ho : ∀ t ∈ tokens, t.isLowercaseLong = true → t.Occupies d) :
    (range tokens).statusOf d p = .fixed ∨ (∃ e, (range tokens).statusOf d p = .outOfBounds e) ∨
      ∃ c, (range tokens).statusOf d p = .noMatch (some c) := by
  by_cases hf : (range tokens).Fixes d p
  · exact .inl ((statusOf_eq_fixed hd).2 hf)
  · rw [(attempt_of_not_fixes hf).2]
    obtain ⟨e, -, -, hloc⟩ | ⟨t, ht, hlong, -⟩ | ⟨-, c, -, hloc⟩ :=
      locate_range_cases (d := d) (p := p) fun t ht hlong => (ho t ht hlong).singleLine
    · exact .inr (.inl ⟨e, by rw [hloc]; rfl⟩)
    · exact absurd ((fixes_range_iff ho).2 ⟨t, ht, hlong⟩) hf
    · exact .inr (.inr ⟨c, by rw [hloc]; rfl⟩)

end Locator

end LongSuffix
