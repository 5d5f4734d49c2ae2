import LongSuffix.Proofs.Agreement
import LongSuffix.Proofs.Canonical
import LongSuffix.Proofs.FileRuns

/-!
# Other terminators

Neither locators nor edits look at what terminates a line, so a batch does the same to a document
whose terminators are exchanged (`Locator.fix?_mapEnding`). To put a carriage return in front of every
newline of a text is such an exchange, if none was there before. So a text can be converted before a
batch or after it (`Locator.fix?_toCrlf`).
-/

namespace LongSuffix

/-! ## Documents with other terminators -/

namespace Document

/-- The document with other terminators. -/
def mapEnding (f : Ending → Ending) (d : Document) : Document :=
  ⟨d.lines.map fun l => { l with ending := f l.ending }⟩

variable (f : Ending → Ending) (d : Document)

@[simp] theorem line?_mapEnding (i : Nat) : (d.mapEnding f).line? i = d.line? i := by
  rw [line?, line?, mapEnding, List.getElem?_map, Option.map_map]
  rfl

@[simp] theorem lineCount_mapEnding : (d.mapEnding f).lineCount = d.lineCount :=
  List.length_map _

theorem replaceLine_mapEnding (i : Nat) (text : List Char) :
    (d.mapEnding f).replaceLine i text = (d.replaceLine i text).map (mapEnding f) := by
  unfold replaceLine
  split
  · rfl
  · simp only [mapEnding, List.getElem?_map]
    cases d.lines[i]? with
    | none => rfl
    | some l => simp only [Option.map_some, mapEnding, List.map_set]

end Document

theorem resolve_mapEnding (f : Ending → Ending) (d : Document) (p : Position) :
    resolve (d.mapEnding f) p = resolve d p := by
  simp only [resolve, Document.line?_mapEnding, Document.lineCount_mapEnding]

theorem LineEdit.apply_mapEnding (f : Ending → Ending) (e : LineEdit) (d : Document) :
    e.apply (d.mapEnding f) = (e.apply d).map fun (result, d') => (result, d'.mapEnding f) := by
  unfold apply
  rw [Document.line?_mapEnding, Document.lineCount_mapEnding]
  cases d.line? e.lineIndex with
  | none => rfl
  | some line =>
    simp only
    cases e.applyToLine line with
    | error err => rfl
    | ok patch =>
      obtain ⟨applied, patched⟩ := patch
      cases applied with
      | false => rfl
      | true =>
        simp only [Document.replaceLine_mapEnding]
        cases d.replaceLine e.lineIndex patched <;> rfl

namespace Locator

variable (loc : Locator) (f : Ending → Ending) (d : Document)

theorem locate_mapEnding (p : Position) : loc.locate (d.mapEnding f) p = loc.locate d p := by
  cases loc with
  | coordinate => simp only [locate, locateByCoordinate, resolve_mapEnding]
  | range tokens => simp only [locate, locateByRange, resolve_mapEnding]

theorem attempt_mapEnding (p : Position) :
    loc.attempt (d.mapEnding f) p = ((loc.attempt d p).1, (loc.attempt d p).2.mapEnding f) := by
  unfold attempt
  rw [locate_mapEnding]
  cases loc.locate d p with
  | outOfBounds e => rfl
  | noMatch found => rfl
  | unsupported reason => rfl
  | edit e =>
    simp only [LineEdit.apply_mapEnding]
    rcases e.apply d with err | ⟨_ | _, d'⟩ <;> rfl

theorem attemptAll_mapEnding (l : List Position) :
    loc.attemptAll (d.mapEnding f) l =
      ((loc.attemptAll d l).1, (loc.attemptAll d l).2.mapEnding f) := by
  induction l generalizing d with
  | nil => rfl
  | cons p l ih => simp only [attemptAll_cons, attempt_mapEnding, ih]

/-- A batch does not see the terminators, and leaves them as they are. -/
theorem fix?_mapEnding (ps : PositionSet) :
    loc.fix? (d.mapEnding f) ps = (loc.fix? d ps).map fun (r, d') => (r, d'.mapEnding f) := by
  unfold fix?
  split
  · rfl
  · rw [attemptAll_mapEnding]
    rfl

end Locator

/-! ## Texts with other newlines -/

/-- The characters with a carriage return in front of every newline. -/
def crlfChars : List Char → List Char
  | [] => []
  | c :: s => if c = '\n' then '\r' :: '\n' :: crlfChars s else c :: crlfChars s

/-- The text with a carriage return in front of every newline. -/
def toCrlf (text : String) : String := String.ofList (crlfChars text.toList)

/-- What a bare newline is converted to. -/
def Ending.toCrlf : Ending → Ending
  | lf => .crlf
  | crlf => .crlf
  | none => .none

/-- No newline has a carriage return in front of it. -/
def BareNewlines (s : List Char) : Prop := ¬ ['\r', '\n'] <:+: s

instance (s : List Char) : Decidable (BareNewlines s) :=
  inferInstanceAs (Decidable (¬ ['\r', '\n'] <:+: s))

theorem BareNewlines.tail {c : Char} {s : List Char} (h : BareNewlines (c :: s)) :
    BareNewlines s :=
  fun hs => h (List.infix_cons hs)

theorem BareNewlines.raised {s t : List Char} (h : List.Forall₂ Raised s t) (hs : BareNewlines s) :
    BareNewlines t := by
  rintro ⟨before, after, rfl⟩
  refine hs ?_
  obtain ⟨front, after', rfl, hfront, -⟩ := forall₂_append_left h.flip
  obtain ⟨before', breaks, rfl, -, hbreaks⟩ := forall₂_append_left hfront
  obtain ⟨r, _, hr, hrest, rfl⟩ := List.forall₂_cons_left_iff.1 hbreaks
  obtain ⟨n, _, hn, hnil, rfl⟩ := List.forall₂_cons_left_iff.1 hrest
  obtain rfl := List.forall₂_nil_left_iff.1 hnil
  obtain rfl : r = '\r' := Raised.eq_of_ne_upper hr (by decide)
  obtain rfl : n = '\n' := Raised.eq_of_ne_upper hn (by decide)
  exact ⟨before', after', rfl⟩

theorem head?_crlfChars (s : List Char) : (crlfChars s).head? ≠ some '\n' := by
  cases s with
  | nil => simp [crlfChars]
  | cons c s =>
    rw [crlfChars]
    split
    · simp
    · next hc => simpa using hc

namespace Document

/-- Converting the newlines of a text converts the terminators of its lines. A carriage return that
is no part of a terminator stays in its line. -/
theorem linesOf_crlfChars {s : List Char} (h : BareNewlines s) :
    linesOf (crlfChars s) = (linesOf s).map fun l => { l with ending := l.ending.toCrlf } := by
  fun_induction linesOf s with
  | case1 => rfl
  | case2 rest ih => simp [crlfChars, linesOf, ih h.tail, Ending.toCrlf]
  | case3 rest ih => exact absurd (List.prefix_append ['\r', '\n'] rest).isInfix h
  | case4 c rest hn _ hrest ih =>
    obtain rfl := linesOf_eq_nil hrest
    rw [crlfChars, if_neg hn, linesOf_cons hn fun _ => head?_crlfChars []]
    rfl
  | case5 c rest hn _ line more hrest ih =>
    rw [crlfChars, if_neg hn, linesOf_cons hn fun _ => head?_crlfChars rest, ih h.tail, hrest]
    rfl

theorem parse_toCrlf {text : String} (h : BareNewlines text.toList) :
    parse (toCrlf text) = (parse text).mapEnding Ending.toCrlf := by
  rw [parse, toCrlf, String.toList_ofList, linesOf_crlfChars h]
  rfl

end Document

/-- **Line endings can be converted before a batch or after it.** The reports are the same, down to
the details of what is out of bounds. By range, the tokens are any, and the same for both texts. -/
theorem Locator.fix?_toCrlf (loc : Locator) (text : String) (htext : BareNewlines text.toList)
    (ps : PositionSet) (hps : ps.isEmpty = false) :
    ∃ r d d', loc.fix? (.parse text) ps = some (r, d) ∧
      loc.fix? (.parse (toCrlf text)) ps = some (r, d') ∧ d'.render = toCrlf d.render := by
  obtain ⟨r, d, hfix⟩ : ∃ r d, loc.fix? (.parse text) ps = some (r, d) :=
    ⟨_, _, fix?_eq_some loc hps⟩
  have hbare : BareNewlines d.render.toList := htext.raised (raised_render_fix? hfix)
  refine ⟨r, d, d.mapEnding Ending.toCrlf, hfix, ?_, ?_⟩
  · rw [Document.parse_toCrlf htext, fix?_mapEnding, hfix]
    rfl
  · calc (d.mapEnding Ending.toCrlf).render
        = ((Document.parse d.render).mapEnding Ending.toCrlf).render := by
          rw [parse_render_fix? hfix]
      _ = toCrlf d.render := by rw [← Document.parse_toCrlf hbare, Document.render_parse]

/-- Carriage returns inside a line and at the start of one, an empty line, and a last line without
terminator. -/
def Sample.bareText : String := "x = 12l\r;\n\n\ry = 4l"

def Sample.bareTokens : List Literal :=
  [token .decimal "12l".toList 0 4, token .decimal "4l".toList 2 5]

/-- Two letters, a carriage return, an empty line, and a line that is not there. -/
def Sample.barePositions : PositionSet :=
  .ofList [position 0 6, position 0 7, position 1 0, position 2 6, position 3 0]

theorem Locator.fix?_toCrlf_sample :
    BareNewlines Sample.bareText.toList ∧ Sample.barePositions.isEmpty = false ∧
      ∃ r d d',
        (Locator.range Sample.bareTokens).fix? (.parse Sample.bareText) Sample.barePositions =
            some (r, d) ∧
          (Locator.range Sample.bareTokens).fix? (.parse (toCrlf Sample.bareText))
            Sample.barePositions = some (r, d') ∧
          d'.render = toCrlf d.render :=
  ⟨by decide +kernel, by decide,
    fix?_toCrlf _ Sample.bareText (by decide +kernel) Sample.barePositions (by decide)⟩

end LongSuffix
