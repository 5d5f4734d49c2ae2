import LongSuffix.Proofs.Raised

/-!
# Raised documents

`d.Raises d'`: the lines of `d'` are those of `d` with some letters `l` raised; terminators, and
with them the shape of the document, are kept. `d.raise p` puts `L` at a position. Positions
that address an `l` can be raised in any order, and each of them changes one character of the
rendered text.
-/

namespace LongSuffix

theorem Position.eq_iff_index {p q : Position} :
    p = q ↔ p.lineIndex = q.lineIndex ∧ p.columnIndex = q.columnIndex := by
  rw [ext_iff', ← p.lineIndex_add_one, ← q.lineIndex_add_one, ← p.columnIndex_add_one,
    ← q.columnIndex_add_one]
  omega

/-- Lines whose texts are raised, with the same terminator. -/
structure Line.Raises (l l' : Line) : Prop where
  ending : l.ending = l'.ending
  text : List.Forall₂ Raised l.text l'.text

namespace Line.Raises

theorem refl (l : Line) : l.Raises l := ⟨rfl, List.forall₂_same.2 fun c _ => .same c⟩

theorem trans {l m n : Line} (h : l.Raises m) (h' : m.Raises n) : l.Raises n :=
  ⟨h.ending.trans h'.ending, forall₂_trans h.text h'.text Raised.trans⟩

theorem chars {l l' : Line} (h : l.Raises l') : List.Forall₂ Raised l.chars l'.chars := by
  rw [Line.chars, Line.chars, h.ending]
  exact List.rel_append h.text (List.forall₂_same.2 fun c _ => .same c)

end Line.Raises

namespace Document

/-- No line has a newline in its text. -/
def NewlineFree (d : Document) : Prop := ∀ l ∈ d.lines, '\n' ∉ l.text

instance (d : Document) : Decidable d.NewlineFree :=
  inferInstanceAs (Decidable (∀ l ∈ d.lines, '\n' ∉ l.text))

/-- The character that a position addresses. -/
def at? (d : Document) (p : Position) : Option Char := d.char? p.lineIndex p.columnIndex

/-- The document with `L` at a position. -/
def raise (d : Document) (p : Position) : Document :=
  ⟨d.lines.modify p.lineIndex fun l => { l with text := l.text.set p.columnIndex 'L' }⟩

/-- Some letters `l` of the first document are `L` in the second, and all else is as it was. -/
def Raises (d d' : Document) : Prop := List.Forall₂ Line.Raises d.lines d'.lines

/-! ## Newlines -/

theorem newlineFree_linesOf (s : List Char) : NewlineFree ⟨linesOf s⟩ := by
  fun_induction linesOf s with
  | case1 => simp [NewlineFree]
  | case2 rest ih => simpa [NewlineFree] using ih
  | case3 rest ih => simpa [NewlineFree] using ih
  | case4 c rest hc _ h ih => simpa [NewlineFree] using fun e : '\n' = c => hc e.symm
  | case5 c rest hc _ line more h ih =>
    rw [h] at ih
    simp only [NewlineFree, List.mem_cons, forall_eq_or_imp, not_or] at ih ⊢
    exact ⟨⟨fun e => hc e.symm, ih.1⟩, ih.2⟩

theorem newlineFree_parse (text : String) : (parse text).NewlineFree :=
  newlineFree_linesOf text.toList

theorem NewlineFree.line? {d : Document} (hd : d.NewlineFree) {i : Nat} {text : List Char}
    (h : d.line? i = some text) : '\n' ∉ text := by
  obtain ⟨l, hl, rfl⟩ := Option.map_eq_some_iff.1 h
  exact hd l (List.mem_of_getElem? hl)

/-! ## Raised documents -/

namespace Raises

variable {d d' d'' : Document}

theorem refl (d : Document) : d.Raises d := List.forall₂_same.2 fun l _ => .refl l

theorem trans (h : d.Raises d') (h' : d'.Raises d'') : d.Raises d'' :=
  forall₂_trans h h' Line.Raises.trans

theorem lineCount_eq (h : d.Raises d') : d.lineCount = d'.lineCount := List.Forall₂.length_eq h

theorem line? (h : d.Raises d') (i : Nat) :
    d.line? i = none ∧ d'.line? i = none ∨
      ∃ t t', d.line? i = some t ∧ d'.line? i = some t' ∧ List.Forall₂ Raised t t' := by
  unfold Document.line?
  obtain ⟨hi, hi'⟩ | ⟨l, l', hi, hi', hl⟩ := forall₂_getElem? h i
  · exact .inl ⟨by rw [hi]; rfl, by rw [hi']; rfl⟩
  · exact .inr ⟨l.text, l'.text, by rw [hi]; rfl, by rw [hi']; rfl, hl.text⟩

theorem ending?_eq (h : d.Raises d') (i : Nat) : d.ending? i = d'.ending? i := by
  unfold Document.ending?
  obtain ⟨hi, hi'⟩ | ⟨l, l', hi, hi', hl⟩ := forall₂_getElem? h i
  · rw [hi, hi']
  · rw [hi, hi', Option.map_some, Option.map_some, hl.ending]

theorem length_line? (h : d.Raises d') (i : Nat) :
    (d.line? i).map List.length = (d'.line? i).map List.length := by
  obtain ⟨hi, hi'⟩ | ⟨t, t', hi, hi', ht⟩ := h.line? i
  · rw [hi, hi']
  · rw [hi, hi', Option.map_some, Option.map_some, ht.length_eq]

theorem at? (h : d.Raises d') (p : Position) :
    d.at? p = none ∧ d'.at? p = none ∨
      ∃ c c', d.at? p = some c ∧ d'.at? p = some c' ∧ Raised c c' := by
  unfold Document.at? char?
  obtain ⟨hi, hi'⟩ | ⟨t, t', hi, hi', ht⟩ := h.line? p.lineIndex
  · exact .inl ⟨by rw [hi]; rfl, by rw [hi']; rfl⟩
  · rw [hi, hi']
    exact forall₂_getElem? ht p.columnIndex

/-- A letter that is still lower case was so before. -/
theorem at?_lower (h : d.Raises d') {p : Position} (hp : d'.at? p = some 'l') :
    d.at? p = some 'l' := by
  obtain ⟨-, hn⟩ | ⟨c, c', hc, hc', hr⟩ := h.at? p
  · rw [hp] at hn; cases hn
  · rw [hp] at hc'; cases hc'
    rw [hc, hr.eq_of_ne_upper (by decide)]

theorem newlineFree (h : d.Raises d') (hd : d.NewlineFree) : d'.NewlineFree := by
  intro l' hl' hn
  obtain ⟨i, hi'⟩ := List.mem_iff_getElem?.1 hl'
  obtain ⟨-, hno⟩ | ⟨l, _, hi, hsome, hl⟩ := forall₂_getElem? h i
  · rw [hi'] at hno; cases hno
  · rw [hi'] at hsome; cases hsome
    exact hd l (List.mem_of_getElem? hi) (mem_of_raised hl.text (by decide) hn)

theorem chars (h : d.Raises d') : List.Forall₂ Raised d.chars d'.chars :=
  List.rel_flatMap h fun _ _ hl => hl.chars

theorem utf8ByteSize_render (h : d.Raises d') :
    d.render.utf8ByteSize = d'.render.utf8ByteSize := utf8ByteSize_raised h.chars

end Raises

/-! ## Raising one position -/

section

variable {d : Document} {p q : Position}

theorem lines_raise (d : Document) (p : Position) (i : Nat) :
    (d.raise p).lines[i]? = (d.lines[i]?).map fun l =>
      if p.lineIndex = i then { l with text := l.text.set p.columnIndex 'L' } else l := by
  rw [raise, List.getElem?_modify]
  split <;> rfl

theorem at?_raise (d : Document) (p q : Position) :
    (d.raise p).at? q = if q = p then (d.at? q).map fun _ => 'L' else d.at? q := by
  unfold at? char? line?
  rw [lines_raise, Option.map_map]
  simp only [Position.eq_iff_index]
  cases d.lines[q.lineIndex]? with
  | none => simp
  | some l =>
    by_cases hline : q.lineIndex = p.lineIndex
    · by_cases hcol : q.columnIndex = p.columnIndex
      · simp [hline, hcol, List.getElem?_set_self', Function.const_def]
      · simp [hline, hcol, List.getElem?_set_ne (Ne.symm hcol)]
    · simp [hline, Ne.symm hline]

theorem at?_raise_ne (h : q ≠ p) : (d.raise p).at? q = d.at? q := by
  rw [at?_raise, if_neg h]

theorem raises_raise (h : d.at? p = some 'l') : d.Raises (d.raise p) := by
  refine forall₂_modify Line.Raises.refl fun l hl => ⟨rfl, ?_⟩
  rw [List.set_eq_modify]
  refine forall₂_modify Raised.same fun c hc => ?_
  have : c = 'l' := by simpa [at?, char?, line?, hl, hc] using h
  exact this ▸ .up

theorem raise_comm (d : Document) (p q : Position) :
    (d.raise p).raise q = (d.raise q).raise p := by
  unfold raise
  by_cases hline : p.lineIndex = q.lineIndex
  · simp only [hline, List.modify_modify_eq]
    congr 2
    funext l
    by_cases hcol : p.columnIndex = q.columnIndex
    · simp [hcol]
    · simp [List.set_comm _ _ hcol]
  · rw [List.modify_modify_ne _ _ _ hline]

theorem differences_flatMap_modify {f : Line → Line} {ls : List Line} {i : Nat} {l : Line}
    (hl : ls[i]? = some l) (hr : l.Raises (f l)) :
    differences (ls.flatMap Line.chars) ((ls.modify i f).flatMap Line.chars) =
      differences l.chars (f l).chars := by
  induction ls generalizing i with
  | nil => simp at hl
  | cons m ls ih =>
    cases i with
    | zero =>
      have : m = l := by simpa using hl
      subst this
      simp [differences_append hr.chars.length_eq]
    | succ i => simp [differences_append, ih (by simpa using hl)]

theorem differences_raise (h : d.at? p = some 'l') :
    differences d.chars (d.raise p).chars = 1 := by
  obtain ⟨text, hline, hc⟩ := Option.bind_eq_some_iff.1 h
  obtain ⟨l, hl, rfl⟩ := Option.map_eq_some_iff.1 hline
  have hr : l.Raises { l with text := l.text.set p.columnIndex 'L' } := by
    obtain ⟨hn, -⟩ | ⟨m, m', hm, hm', hr⟩ := forall₂_getElem? (raises_raise h) p.lineIndex
    · rw [hl] at hn; cases hn
    · rw [lines_raise, hl, Option.map_some, if_pos rfl] at hm'
      rw [hl] at hm; cases hm; cases hm'
      exact hr
  rw [raise, chars, chars, differences_flatMap_modify hl hr, Line.chars, Line.chars,
    differences_append hr.text.length_eq, differences_self, differences_set hc]

end

end Document

end LongSuffix
