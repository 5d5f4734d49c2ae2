import LongSuffix.Proofs.TokenView

/-!
# Where the suffix of a token is looked for

The suffix of a token is looked for just before the end of its span. The end of an empty span is also its
start, so there this position lies outside, in front of the span; it is missing only if the end is the
first column of a line. For all other tokens with a span in order it is inside (`suffixInside_exactly`),
and so for all tokens that stand where they say and have a text. A correction is always made at this
position, inside or not.
-/

namespace LongSuffix

namespace Span

variable {s : Span} {p : Position}

theorem last_lt_stop (h : s.last = some p) : p < s.stop := by
  obtain ⟨hline, hcolumn⟩ := last_eq_some.1 h
  rw [Position.lt_def]
  omega

/-- The position before the end is not before the start, if only the end is behind it. -/
theorem covers_last_iff (h : s.last = some p) : s.Covers p ↔ s.start < s.stop := by
  obtain ⟨hline, hcolumn⟩ := last_eq_some.1 h
  rw [Covers, and_iff_left (last_lt_stop h), Position.lt_def, Position.lt_def]
  omega

theorem start_lt_stop_iff {start stop : Position} (h : of start stop = .ok s) :
    s.start < s.stop ↔ s.start ≠ s.stop := by
  obtain ⟨rfl, hordered⟩ := of_eq_ok_iff.1 h
  show start < stop ↔ start ≠ stop
  rw [Position.lt_def] at hordered
  rw [Position.lt_def, ne_eq, Position.ext_iff']
  omega

end Span

namespace Literal

variable {t : Literal} {p q : Position} {text : List Char}

/-- The suffix is looked for inside the span, and nowhere if the span is empty or ends at the first
column; a correction is made there. -/
structure SuffixInside (t : Literal) : Prop where
  none_iff : t.suffixPosition = none ↔ t.span.start = t.span.stop ∨ t.span.stop.column = 1
  covers : ∀ p, t.suffixPosition = some p → t.span.Covers p
  corrected : ∀ candidates p text, t.correct candidates = .corrected p text →
    t.suffixPosition = some p ∧ t.span.Covers p

/-! ## Corrections -/

theorem of_correctAt (h : t.correctAt p = .corrected q text) : q = p ∧ t.suffixPosition = some p := by
  obtain ⟨rfl, -, hlast, hsingle, hline, -⟩ := of_corrected h
  refine ⟨rfl, Span.last_eq_some.2 ⟨?_, (Span.lastColumn_eq_some.1 hlast).2⟩⟩
  rw [hline, Span.line_eq_of_isSingleLine hsingle]

/-- A correction is made at one of the candidates, and where the suffix is looked for. -/
theorem of_correct {candidates : List Position} (h : t.correct candidates = .corrected p text) :
    p ∈ candidates ∧ t.suffixPosition = some p := by
  induction candidates with
  | nil => cases h
  | cons q rest ih =>
    rw [correct] at h
    split at h
    · obtain ⟨hmem, hlast⟩ := ih h
      exact ⟨List.mem_cons_of_mem q hmem, hlast⟩
    · obtain ⟨rfl, hlast⟩ := of_correctAt h
      exact ⟨List.mem_cons_self, hlast⟩

/-! ## Inside and outside -/

theorem suffixInside_of_lt (h : t.span.start < t.span.stop) : t.SuffixInside where
  none_iff := by
    have hne : t.span.start ≠ t.span.stop := fun heq => Position.lt_irrefl _ (heq ▸ h)
    rw [or_iff_right hne]
    exact Span.last_eq_none_iff
  covers p hp := (Span.covers_last_iff hp).2 h
  corrected candidates p text hc := by
    have hlast := (of_correct hc).2
    exact ⟨hlast, (Span.covers_last_iff hlast).2 h⟩

/-- At the first column there is no position to look at. -/
theorem suffixInside_of_column_eq (h : t.span.stop.column = 1) : t.SuffixInside := by
  have hnone : t.suffixPosition = none := Span.last_eq_none_iff.2 h
  refine ⟨iff_of_true hnone (.inr h), fun p hp => ?_, fun candidates p text hc => ?_⟩
  · rw [hnone] at hp
    cases hp
  · rw [(of_correct hc).2] at hnone
    cases hnone

theorem suffixInside_iff :
    t.SuffixInside ↔ t.span.start < t.span.stop ∨ t.span.stop.column = 1 := by
  constructor
  · intro h
    cases hlast : t.suffixPosition with
    | none => exact .inr (Span.last_eq_none_iff.1 hlast)
    | some p => exact .inl ((Span.covers_last_iff hlast).1 (h.covers p hlast))
  · rintro (h | h)
    · exact suffixInside_of_lt h
    · exact suffixInside_of_column_eq h

theorem Occupies.start_lt_stop {d : Document} (ho : t.Occupies d) (h : t.text ≠ []) :
    t.span.start < t.span.stop := by
  have hline := Span.line_eq_of_isSingleLine ho.singleLine
  have hcolumns := ho.columnIndex_lt h
  simp only [Position.columnIndex] at hcolumns
  rw [Position.lt_def]
  omega

/-- **When the suffix is looked for inside the token.** Exactly if the span ends behind its start, or at
the first column; of the spans that are accepted all do but the empty ones, and the span of every token
that stands where it says and has a text does. The position is the one just before the end, outside
exactly if the span is empty, and every correction is made there. -/
theorem suffixInside_exactly (t : Literal) :
    (t.SuffixInside ↔ t.span.start < t.span.stop ∨ t.span.stop.column = 1) ∧
    (∀ start stop, Span.of start stop = .ok t.span →
      (t.SuffixInside ↔ t.span.start ≠ t.span.stop ∨ t.span.stop.column = 1) ∧
      ∀ p, t.suffixPosition = some p → (t.span.Covers p ↔ t.span.start ≠ t.span.stop)) ∧
    (∀ d, t.Occupies d → t.text ≠ [] → t.SuffixInside) ∧
    (∀ p, t.suffixPosition = some p ↔ t.span.stop.line = p.line ∧ t.span.stop.column = p.column + 1) ∧
    ∀ candidates p text, t.correct candidates = .corrected p text →
      p ∈ candidates ∧ t.suffixPosition = some p := by
  refine ⟨suffixInside_iff, fun start stop hspan => ⟨?_, fun p hp => ?_⟩, fun d ho h => ?_,
    fun p => Span.last_eq_some, fun candidates p text => of_correct⟩
  · rw [suffixInside_iff, Span.start_lt_stop_iff hspan]
  · rw [Span.covers_last_iff hp, Span.start_lt_stop_iff hspan]
  · exact suffixInside_of_lt (ho.start_lt_stop h)

/-- A letter in front of the token makes no difference, nor do positions of other lines. -/
theorem suffixInside_exactly_sample :
    let t : Literal := ⟨.decimal, "42l".toList, ⟨.mk 1 3, .mk 1 6⟩⟩
    let candidates := [.mk 2 5, .mk 1 5]
    Span.of (.mk 1 3) (.mk 1 6) = .ok t.span ∧
      (t.Occupies (.ofLines ["é 42l;".toList]) ∧ t.text ≠ []) ∧
      t.correct candidates = .corrected (.mk 1 5) "42L".toList ∧
      t.SuffixInside ∧ t.suffixPosition = some (.mk 1 5) ∧ t.span.Covers (.mk 1 5) := by
  intro t candidates
  have hspan : Span.of (.mk 1 3) (.mk 1 6) = .ok t.span := rfl
  have ho : t.Occupies (.ofLines ["é 42l;".toList]) := by decide
  have ht : t.text ≠ [] := by decide
  have hc : t.correct candidates = .corrected (.mk 1 5) "42L".toList := by decide
  obtain ⟨-, haccepted, hinside, -, hcorrected⟩ := suffixInside_exactly t
  have hlast := (hcorrected _ _ _ hc).2
  exact ⟨hspan, ⟨ho, ht⟩, hc, hinside _ ho ht, hlast, ((haccepted _ _ hspan).2 _ hlast).2 (by decide)⟩

/-- An empty span in the middle of a line: the suffix is looked for in front of it, and corrected. -/
theorem suffix_before_empty_span :
    ∃ span, Span.of (.mk 6 10) (.mk 6 10) = .ok span ∧
      let t : Literal := ⟨.decimal, "1l".toList, span⟩
      t.suffixPosition = some (.mk 6 9) ∧ .mk 6 9 < t.span.start ∧
        t.correct [.mk 6 9] = .corrected (.mk 6 9) "1L".toList ∧ ¬ t.SuffixInside := by
  refine ⟨⟨.mk 6 10, .mk 6 10⟩, rfl, by decide, by decide, by decide, fun h => ?_⟩
  exact absurd (h.none_iff.2 (.inl rfl)) (by decide)

end Literal

end LongSuffix
