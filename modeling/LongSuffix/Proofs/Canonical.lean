import LongSuffix.Proofs.Places
import LongSuffix.Proofs.Rounds

/-!
# Canonical documents

Rendering the lines of a text gives the text back. The other way round this fails for documents
that no text is cut into: a newline inside a line, a line without terminator that is empty or not
the last one, or a carriage return in front of a bare newline. Documents without these flaws are
canonical, and they are exactly the documents of texts (`Document.parse_render_exact`). Raising
letters brings in no flaw, so a run of rounds may render its document and cut the text into lines
again between any two of them (`fixRounds?_through_texts`).
-/

namespace LongSuffix

/-- Nothing in the line is taken for a part of its terminator, or of another line. -/
structure Line.Canonical (l : Line) : Prop where
  no_newline : '\n' ∉ l.text
  text_of_unterminated : l.ending = .none → l.text ≠ []
  no_return : l.ending = .lf → l.text.getLast? ≠ some '\r'

instance (l : Line) : Decidable l.Canonical :=
  decidable_of_iff ('\n' ∉ l.text ∧ (l.ending = .none → l.text ≠ []) ∧
      (l.ending = .lf → l.text.getLast? ≠ some '\r'))
    ⟨fun h => ⟨h.1, h.2.1, h.2.2⟩, fun h => ⟨h.no_newline, h.text_of_unterminated, h.no_return⟩⟩

namespace Document

/-- All lines are canonical, and only the last one may have no terminator. -/
structure Canonical (d : Document) : Prop where
  lines : ∀ l ∈ d.lines, l.Canonical
  terminated : ∀ l ∈ d.lines.dropLast, l.ending ≠ .none

instance (d : Document) : Decidable d.Canonical :=
  decidable_of_iff ((∀ l ∈ d.lines, l.Canonical) ∧ ∀ l ∈ d.lines.dropLast, l.ending ≠ .none)
    ⟨fun h => ⟨h.1, h.2⟩, fun h => ⟨h.lines, h.terminated⟩⟩

theorem canonical_cons {l : Line} {rest : List Line} :
    Canonical ⟨l :: rest⟩ ↔ l.Canonical ∧ (rest ≠ [] → l.ending ≠ .none) ∧ Canonical ⟨rest⟩ := by
  cases rest with
  | nil =>
    constructor
    · intro h
      exact ⟨h.lines l List.mem_cons_self, fun hne => absurd rfl hne, by simp, by simp⟩
    · rintro ⟨hl, -, -⟩
      exact ⟨by simpa using hl, by simp⟩
  | cons m rest =>
    constructor
    · intro h
      obtain ⟨hl, hlines⟩ := List.forall_mem_cons.1 h.lines
      obtain ⟨he, hterminated⟩ := List.forall_mem_cons.1 h.terminated
      exact ⟨hl, fun _ => he, hlines, hterminated⟩
    · rintro ⟨hl, he, hrest⟩
      exact ⟨List.forall_mem_cons.2 ⟨hl, hrest.lines⟩,
        List.forall_mem_cons.2 ⟨he (List.cons_ne_nil _ _), hrest.terminated⟩⟩

/-! ## The lines of a rendered document -/

/-- The characters of a canonical line are cut off as this line. -/
theorem linesOf_chars_append {l : Line} (h : l.Canonical) {s : List Char}
    (hs : s ≠ [] → l.ending ≠ .none) : linesOf (l.chars ++ s) = l :: linesOf s := by
  obtain ⟨text, ending⟩ := l
  rw [Line.chars, List.append_assoc]
  cases ending with
  | lf =>
    rw [Ending.chars, linesOf_append_of_no_newline (by simp) h.no_newline
      fun hr => absurd hr (h.no_return rfl)]
    simp [linesOf, prepend]
  | crlf =>
    rw [Ending.chars, linesOf_append_of_no_newline (by simp) h.no_newline fun _ => by simp]
    simp [linesOf, prepend]
  | none =>
    obtain rfl : s = [] := by
      by_contra hne
      exact hs hne rfl
    have hne : text ≠ [] := h.text_of_unterminated rfl
    rw [Ending.chars, linesOf_append_of_no_newline (by simp [hne]) h.no_newline fun _ => by simp]
    simp [linesOf, prepend]

theorem Canonical.parse_render {d : Document} (h : d.Canonical) : parse d.render = d := by
  obtain ⟨lines⟩ := d
  rw [parse, render, String.toList_ofList, mk.injEq]
  induction lines with
  | nil => rfl
  | cons l rest ih =>
    obtain ⟨hl, he, hrest⟩ := canonical_cons.1 h
    have hcut : linesOf (l.chars ++ chars ⟨rest⟩) = l :: linesOf (chars ⟨rest⟩) := by
      refine linesOf_chars_append hl fun hne => he ?_
      rintro rfl
      exact hne rfl
    rw [ih hrest] at hcut
    exact hcut

/-! ## The lines of a text -/

theorem canonical_linesOf (s : List Char) : Canonical ⟨linesOf s⟩ := by
  fun_induction linesOf s with
  | case1 => exact ⟨by simp, by simp⟩
  | case2 rest ih => exact canonical_cons.2 ⟨⟨by simp, by simp, by simp⟩, by simp, ih⟩
  | case3 rest ih => exact canonical_cons.2 ⟨⟨by simp, by simp, by simp⟩, by simp, ih⟩
  | case4 c rest hn _ h ih =>
    exact canonical_cons.2 ⟨⟨by simpa using Ne.symm hn, by simp, by simp⟩, by simp, by simp, by simp⟩
  | case5 c rest hn hr line more h ih =>
    rw [h] at ih
    obtain ⟨hline, he, hmore⟩ := canonical_cons.1 ih
    refine canonical_cons.2 ⟨⟨?_, fun _ => List.cons_ne_nil _ _, fun hlf hlast => ?_⟩, he, hmore⟩
    · simpa using ⟨Ne.symm hn, hline.no_newline⟩
    · -- A return in front of an empty line would have been taken for its terminator.
      cases htext : line.text with
      | nil =>
        have hrest := flatMap_chars_linesOf rest
        rw [h, List.flatMap_cons, Line.chars, htext, hlf] at hrest
        have hc : c = '\r' := by simpa [htext] using hlast
        exact hr _ hc hrest.symm
      | cons d text =>
        refine hline.no_return hlf ?_
        rw [htext] at hlast ⊢
        simpa using hlast

theorem canonical_parse (text : String) : (parse text).Canonical := canonical_linesOf text.toList

/-- **Rendering and cutting into lines undo each other,** always on texts, and on documents exactly
if they are canonical, that is, if a text is cut into them. -/
theorem parse_render_exact :
    (∀ text, (parse text).render = text) ∧ (∀ d, parse d.render = d ↔ d.Canonical) ∧
      ∀ d, d.Canonical ↔ ∃ text, parse text = d := by
  refine ⟨render_parse, fun d => ⟨fun h => ?_, Canonical.parse_render⟩, fun d => ⟨fun h => ?_, ?_⟩⟩
  · rw [← h]
    exact canonical_parse d.render
  · exact ⟨d.render, h.parse_render⟩
  · rintro ⟨text, rfl⟩
    exact canonical_parse text

/-- A bare newline behind a carriage return, a line in the middle without terminator, and an empty
line at the end: each of them is lost on the way. -/
example : parse (render ⟨[⟨['a', '\r'], .lf⟩]⟩) = ⟨[⟨['a'], .crlf⟩]⟩ ∧
    parse (render ⟨[⟨['a'], .none⟩, ⟨['b'], .lf⟩]⟩) = ⟨[⟨['a', 'b'], .lf⟩]⟩ ∧
    parse (render ⟨[⟨['a'], .lf⟩, ⟨[], .none⟩]⟩) = ⟨[⟨['a'], .lf⟩]⟩ := by decide

end Document

/-! ## Raised documents -/

theorem Line.Raises.canonical {l l' : Line} (h : l.Raises l') (hl : l.Canonical) :
    l'.Canonical := by
  have hlast : l'.text.getLast? = some '\r' → l.text.getLast? = some '\r' := by
    intro hr
    rw [List.getLast?_eq_getElem?, ← h.text.length_eq] at hr
    rw [List.getLast?_eq_getElem?]
    obtain ⟨-, hn⟩ | ⟨c, c', hc, hc', hraised⟩ := forall₂_getElem? h.text (l.text.length - 1)
    · rw [hr] at hn; cases hn
    · rw [hr] at hc'; cases hc'
      rw [hc, hraised.eq_of_ne_upper (by decide)]
  constructor
  case no_newline => exact fun hn => hl.no_newline (mem_of_raised h.text (by decide) hn)
  case text_of_unterminated =>
    intro he hnil
    have hlength := h.text.length_eq
    rw [hnil, List.length_nil, List.length_eq_zero_iff] at hlength
    exact hl.text_of_unterminated (h.ending.trans he) hlength
  case no_return => exact fun he hr => hl.no_return (h.ending.trans he) (hlast hr)

/-- Raising letters makes no terminator and takes none away. -/
theorem Document.Raises.canonical {d d' : Document} (h : d.Raises d') (hd : d.Canonical) :
    d'.Canonical := by
  obtain ⟨lines⟩ := d
  obtain ⟨lines'⟩ := d'
  change List.Forall₂ Line.Raises lines lines' at h
  induction h with
  | nil => exact hd
  | cons hl hrest ih =>
    obtain ⟨hline, he, hd⟩ := canonical_cons.1 hd
    refine canonical_cons.2 ⟨hl.canonical hline, fun hne => ?_, ih hd⟩
    rw [← hl.ending]
    refine he ?_
    rintro rfl
    exact hne (List.forall₂_nil_left_iff.1 hrest)

theorem Locator.parse_render_fix? {loc : Locator} {text : String} {ps : PositionSet} {r : FixReport}
    {d : Document} (h : loc.fix? (.parse text) ps = some (r, d)) : Document.parse d.render = d :=
  ((raises_fix? (Document.newlineFree_parse text) h).canonical
    (Document.canonical_parse text)).parse_render

/-! ## Rounds on a stored text -/

/-- Runs the rounds on a text that is cut into lines at the start of each of them and stored as
rendered at its end. Gives the report and the stored text of every round; none if one of the rounds
has no positions. -/
def fixStored? (text : String) : List Round → Option (List (FixReport × String))
  | [] => some []
  | round :: rest => do
    let (report, d) ← round.locator.fix? (.parse text) round.positions
    let steps ← fixStored? d.render rest
    return (report, d.render) :: steps

/-- **A run may go through texts.** After any number of rounds on one document the reports are those
of the rounds on the stored text, and the stored text is the one that the document renders to. -/
theorem fixRounds?_through_texts (text : String) (rounds : List Round)
    (hne : ∀ round ∈ rounds, round.positions.isEmpty = false) :
    ∃ steps, fixStored? text rounds = some steps ∧ steps.length = rounds.length ∧
      ∀ n ≤ rounds.length, ∃ d,
        fixRounds? (.parse text) (rounds.take n) = some ((steps.take n).map Prod.fst, d) ∧
          (text :: steps.map Prod.snd)[n]? = some d.render ∧ Document.parse d.render = d := by
  induction rounds generalizing text with
  | nil =>
    refine ⟨[], rfl, rfl, fun n hn => ⟨.parse text, ?_⟩⟩
    obtain rfl : n = 0 := by simpa using hn
    simp [fixRounds?]
  | cons round rounds ih =>
    obtain ⟨hround, hne⟩ := List.forall_mem_cons.1 hne
    obtain ⟨r, d₁, hfix⟩ : ∃ r d₁, round.locator.fix? (.parse text) round.positions = some (r, d₁) :=
      ⟨_, _, Locator.fix?_eq_some round.locator hround⟩
    have hd₁ := Locator.parse_render_fix? hfix
    obtain ⟨steps, hsteps, hlength, hafter⟩ := ih d₁.render hne
    refine ⟨(r, d₁.render) :: steps, ?_, ?_, fun n hn => ?_⟩
    · simp [fixStored?, hfix, hsteps]
    · simp [hlength]
    · cases n with
      | zero => exact ⟨.parse text, by simp [fixRounds?]⟩
      | succ n =>
        obtain ⟨d, hd, htext, hd'⟩ := hafter n (by simpa using hn)
        rw [hd₁] at hd
        exact ⟨d, fixRounds?_cons hfix hd, by simpa using htext, hd'⟩

theorem fixRounds?_through_texts_sample :
    (∀ round ∈ Sample.rounds, round.positions.isEmpty = false) ∧
      ∃ steps, fixStored? Sample.document.render Sample.rounds = some steps ∧ steps.length = 3 ∧
        ∀ n ≤ 3, ∃ d,
          fixRounds? (.parse Sample.document.render) (Sample.rounds.take n) =
              some ((steps.take n).map Prod.fst, d) ∧
            (Sample.document.render :: steps.map Prod.snd)[n]? = some d.render ∧
            Document.parse d.render = d :=
  ⟨by decide, fixRounds?_through_texts Sample.document.render Sample.rounds (by decide)⟩

end LongSuffix
