import LongSuffix.Proofs.Attempt

/-!
# What an edit does

An edit of a line cuts it at byte offsets, and comes to a replacement of characters that is made
only where the line holds what is expected (`applyToLine_replaces`). Made again on its own result it
does nothing, exactly if the new text is as long as the range; the edits that locators give are so
(`again_idle_iff`).

An edit of a document reports what it made of the line, before the line is put back. The report is
true unless the new line has a newline in it and cannot be put back. Documents that are read from a
text have no newlines in their lines, however they are edited, so there it takes a new text with a
newline to make a false report (`truthful_exactly`).
-/

namespace LongSuffix

/-! ## Bytes of a line -/

theorem byteLength_eq_utf8ByteSize (s : List Char) :
    byteLength s = (String.ofList s).utf8ByteSize := by
  induction s with
  | nil => rfl
  | cons c s ih => rw [byteLength_cons, ih]; simp [String.ofList_cons]

/-- Behind some of its characters the encoding of a text can be cut. -/
theorem isValid_byteLength_take (s : List Char) (k : Nat) :
    String.Pos.Raw.IsValid (.ofList s) ⟨byteLength (s.take k)⟩ :=
  String.Pos.Raw.isValid_ofList.2 ⟨k, byteLength_eq_utf8ByteSize _⟩

theorem size_toByteArray_ofList (s : List Char) :
    (String.ofList s).toByteArray.size = byteLength s := by
  rw [String.size_toByteArray, byteLength_eq_utf8ByteSize]

/-- Between the two ends of a part of a text stand the bytes of that part. -/
theorem extract_toByteArray_append (s t u : List Char) :
    (String.ofList (s ++ (t ++ u))).toByteArray.extract (byteLength s) (byteLength (s ++ t)) =
      (String.ofList t).toByteArray := by
  rw [String.ofList_append, String.ofList_append, String.toByteArray_append,
    String.toByteArray_append, byteLength_append]
  calc ((String.ofList s).toByteArray ++ ((String.ofList t).toByteArray ++
          (String.ofList u).toByteArray)).extract (byteLength s + 0) (byteLength s + byteLength t)
      = ((String.ofList t).toByteArray ++ (String.ofList u).toByteArray).extract 0 (byteLength t) :=
        ByteArray.extract_append_size_add' (size_toByteArray_ofList s).symm
    _ = (String.ofList t).toByteArray :=
        ByteArray.extract_append_eq_left (size_toByteArray_ofList t).symm

namespace LineEdit

variable {e : LineEdit} {line : List Char}

/-! ## The edit of a line -/

/-- What an edit that is not refused found, and what it made of the line. -/
theorem of_applyToLine_ok {patch : Patch} (h : e.applyToLine line = .ok patch) :
    e.start ≤ e.stop ∧ e.stop ≤ line.length ∧
      (e.target line = e.newText ∧ patch = ⟨false, line⟩ ∨
        e.target line ≠ e.newText ∧ e.target line = e.expected ∧ patch = ⟨true, e.patched line⟩) := by
  rw [applyToLine_eq] at h
  split at h
  · cases h
  · next hrange =>
    refine ⟨by omega, by omega, ?_⟩
    split at h
    · next hnew => cases h; exact .inl ⟨hnew, rfl⟩
    · next hnew =>
      split at h
      · next hexp => cases h; exact .inr ⟨hnew, hexp, rfl⟩
      · cases h

theorem applyToLine_eq_invalidColumnRange_iff {l a b n : Nat} :
    e.applyToLine line = .error (.invalidColumnRange l a b n) ↔
      (l = e.lineIndex + 1 ∧ a = e.start ∧ b = e.stop ∧ n = line.length) ∧ (b < a ∨ n < b) := by
  rw [applyToLine_eq]
  split
  · next hrange =>
    simp only [Except.error.injEq, EditError.invalidColumnRange.injEq]
    constructor
    · rintro ⟨rfl, rfl, rfl, rfl⟩
      exact ⟨⟨rfl, rfl, rfl, rfl⟩, hrange⟩
    · rintro ⟨⟨rfl, rfl, rfl, rfl⟩, -⟩
      exact ⟨rfl, rfl, rfl, rfl⟩
  · next hrange =>
    have hno : ¬ ((l = e.lineIndex + 1 ∧ a = e.start ∧ b = e.stop ∧ n = line.length) ∧
        (b < a ∨ n < b)) := by
      rintro ⟨⟨rfl, rfl, rfl, rfl⟩, h⟩
      exact hrange h
    refine iff_of_false ?_ hno
    split
    · simp
    · split <;> simp

theorem length_target (h : e.stop ≤ line.length) :
    (e.target line).length = e.stop - e.start := by
  rw [target, List.length_drop, List.length_take, Nat.min_eq_left h]

/-- **An edit of a line is a checked replacement of characters.** A range that the line does not
have is refused; otherwise the line is cut in three, and the middle part decides. The offsets at
which the bytes of the line are cut lie between characters, and around the bytes of that part. -/
theorem applyToLine_replaces (e : LineEdit) (line : List Char) :
    (∀ l a b n, e.applyToLine line = .error (.invalidColumnRange l a b n) ↔
      (l = e.lineIndex + 1 ∧ a = e.start ∧ b = e.stop ∧ n = line.length) ∧ (b < a ∨ n < b)) ∧
    (e.start ≤ e.stop ∧ e.stop ≤ line.length →
      ∃ before held after, line = before ++ (held ++ after) ∧
        before.length = e.start ∧ before.length + held.length = e.stop ∧
        e.applyToLine line =
          (if held = e.newText then .ok ⟨false, line⟩
          else if held = e.expected then .ok ⟨true, before ++ e.newText ++ after⟩
          else .error (.beforeTextMismatch (e.lineIndex + 1) (e.start + 1) e.expected held)) ∧
        ∃ first last, byteRange? line e.start e.stop = some (first, last) ∧
          String.Pos.Raw.IsValid (.ofList line) ⟨first⟩ ∧
          String.Pos.Raw.IsValid (.ofList line) ⟨last⟩ ∧
          (String.ofList line).toByteArray.extract first last = (String.ofList held).toByteArray) := by
  refine ⟨fun l a b n => applyToLine_eq_invalidColumnRange_iff, fun ⟨hstart, hstop⟩ => ?_⟩
  have hrange : ¬ (e.stop < e.start ∨ line.length < e.stop) := by omega
  have hline : line.take e.start ++ (e.target line ++ line.drop e.stop) = line :=
    take_append_slice_append_drop line hstart
  have hbytes := extract_toByteArray_append (line.take e.start) (e.target line) (line.drop e.stop)
  have htake : line.take e.start ++ e.target line = line.take e.stop := take_append_slice line hstart
  rw [hline, htake] at hbytes
  refine ⟨line.take e.start, e.target line, line.drop e.stop, hline.symm, ?_, ?_, ?_, ?_⟩
  · rw [List.length_take]; omega
  · rw [List.length_take, length_target hstop]; omega
  · rw [applyToLine_eq, if_neg hrange]
    rfl
  · exact ⟨_, _, by rw [byteRange?_eq, if_neg hrange], isValid_byteLength_take _ _,
      isValid_byteLength_take _ _, hbytes⟩

/-- Letters of two and of four bytes stand in front of the number. -/
theorem applyToLine_replaces_sample :
    let e : LineEdit := ⟨0, 2, 4, ['7', 'L'], ['7', 'l']⟩
    let line := ['é', '😀', '7', 'l', ';']
    (e.start ≤ e.stop ∧ e.stop ≤ line.length) ∧
      e.applyToLine line = .ok ⟨true, ['é', '😀', '7', 'L', ';']⟩ ∧
      byteRange? line e.start e.stop = some (6, 8) ∧
      String.Pos.Raw.IsValid (.ofList line) ⟨6⟩ ∧ String.Pos.Raw.IsValid (.ofList line) ⟨8⟩ := by
  intro e line
  have hbounds : e.start ≤ e.stop ∧ e.stop ≤ line.length := by decide
  obtain ⟨before, held, after, hline, hbefore, hheld, happly, first, last, hr, hfirst, hlast, -⟩ :=
    (applyToLine_replaces e line).2 hbounds
  have hcut : before ++ (held ++ after) = ['é', '😀'] ++ (['7', 'l'] ++ [';']) := hline.symm
  obtain ⟨rfl, hrest⟩ := List.append_inj hcut hbefore
  obtain ⟨rfl, rfl⟩ := List.append_inj hrest (Nat.add_left_cancel hheld)
  have hrange : byteRange? line e.start e.stop = some (6, 8) := by decide
  rw [hrange] at hr
  cases hr
  exact ⟨hbounds, happly, hrange, hfirst, hlast⟩

/-! ## The edit made again -/

theorem length_patched (hstart : e.start ≤ e.stop) (hstop : e.stop ≤ line.length) :
    (e.patched line).length = e.start + e.newText.length + (line.length - e.stop) := by
  simp only [patched, List.length_append, List.length_take, List.length_drop]
  omega

/-- A new text as long as the range takes its place. -/
theorem target_patched (hstart : e.start ≤ e.stop) (hstop : e.stop ≤ line.length)
    (hlength : e.newText.length = e.stop - e.start) : e.target (e.patched line) = e.newText := by
  have hbefore : (line.take e.start).length = e.start := by rw [List.length_take]; omega
  have htake : (line.take e.start ++ e.newText).length = e.stop := by
    rw [List.length_append, hbefore]; omega
  rw [target, patched, List.take_left' htake, List.drop_left' hbefore]

/-- An edit that is made puts the new text in, and this changes the line. -/
theorem of_applied {line' : List Char} (h : e.applyToLine line = .ok ⟨true, line'⟩) :
    line' = e.patched line ∧ line' ≠ line := by
  obtain ⟨hstart, -, ⟨-, hpatch⟩ | ⟨hne, -, hpatch⟩⟩ := of_applyToLine_ok h
  · cases hpatch
  · cases hpatch
    refine ⟨rfl, fun heq => hne ?_⟩
    rw [patched, List.append_assoc] at heq
    have hline := heq.trans (take_append_slice_append_drop line hstart).symm
    exact (List.append_cancel_right (List.append_cancel_left hline)).symm

theorem again_of_length {patch : Patch} (h : e.applyToLine line = .ok patch)
    (hlength : e.newText.length = e.stop - e.start) :
    e.applyToLine patch.line = .ok ⟨false, patch.line⟩ := by
  obtain ⟨hstart, hstop, ⟨-, rfl⟩ | ⟨-, -, rfl⟩⟩ := of_applyToLine_ok h
  · exact h
  · have hrange : ¬ (e.stop < e.start ∨ (e.patched line).length < e.stop) := by
      rw [length_patched hstart hstop]; omega
    rw [applyToLine_eq, if_neg hrange, if_pos (target_patched hstart hstop hlength)]

/-- What was found in the range is as long as the range. -/
theorem length_of_applyToLine_ok {patch : Patch} (h : e.applyToLine line = .ok patch) :
    (if patch.applied then e.expected else e.newText).length = e.stop - e.start := by
  obtain ⟨-, hstop, ⟨hnew, rfl⟩ | ⟨-, hexp, rfl⟩⟩ := of_applyToLine_ok h
  · exact hnew ▸ length_target hstop
  · exact hexp ▸ length_target hstop

/-- A locator's edit puts in as many characters as it expects. -/
theorem AimsAt.length_newText {p : Position} (h : e.AimsAt p) :
    e.newText.length = e.expected.length := by
  obtain ⟨digits, -, hexp, hnew⟩ := h.texts
  rw [hexp, hnew, List.length_append, List.length_append, List.length_singleton,
    List.length_singleton]

/-- **When an edit can be made again.** On the line that it made, an edit does nothing exactly if its
new text is as long as its range. This is so for all edits that a locator gives, whatever its tokens
are, as far as they can be made at all. -/
theorem again_idle_iff :
    (∀ (e : LineEdit) (line line' : List Char), e.applyToLine line = .ok ⟨true, line'⟩ →
      (e.applyToLine line' = .ok ⟨false, line'⟩ ↔ e.newText.length = e.stop - e.start)) ∧
    ∀ (loc : Locator) (d : Document) (p : Position) (e : LineEdit), loc.locate d p = .edit e →
      ∀ (line : List Char) (patch : Patch), e.applyToLine line = .ok patch →
        e.newText.length = e.stop - e.start ∧
          e.applyToLine patch.line = .ok ⟨false, patch.line⟩ := by
  refine ⟨fun e line line' h => ⟨length_of_applyToLine_ok, again_of_length h⟩, ?_⟩
  intro loc d p e hloc line patch h
  have hlength : e.newText.length = e.stop - e.start := by
    have hfound := length_of_applyToLine_ok h
    split at hfound
    · rwa [(Locator.aimsAt_of_locate hloc).length_newText]
    · exact hfound
  exact ⟨hlength, again_of_length h hlength⟩

/-- A token is raised once and for all; an edit that doubles a letter goes on doubling it. -/
theorem again_idle_iff_sample :
    let d : Document := .ofLines ["é 42l;".toList]
    let token : Literal := ⟨.decimal, "42l".toList, ⟨.mk 1 3, .mk 1 6⟩⟩
    let raise := LineEdit.token 0 2 5 "42l".toList "42L".toList
    let double : LineEdit := ⟨0, 0, 1, ['l', 'l'], ['l']⟩
    ((Locator.range [token]).locate d (.mk 1 5) = .edit raise ∧
      raise.applyToLine "é 42l;".toList = .ok ⟨true, "é 42L;".toList⟩ ∧
      raise.applyToLine "é 42L;".toList = .ok ⟨false, "é 42L;".toList⟩) ∧
    double.applyToLine ['l'] = .ok ⟨true, ['l', 'l']⟩ ∧
      double.applyToLine ['l', 'l'] ≠ .ok ⟨false, ['l', 'l']⟩ := by
  intro d token raise double
  have hloc : (Locator.range [token]).locate d (.mk 1 5) = .edit raise := by decide
  have hraise : raise.applyToLine "é 42l;".toList = .ok ⟨true, "é 42L;".toList⟩ := by decide
  have hdouble : double.applyToLine ['l'] = .ok ⟨true, ['l', 'l']⟩ := by decide
  refine ⟨⟨hloc, hraise, (again_idle_iff.2 _ d _ raise hloc _ _ hraise).2⟩, hdouble, ?_⟩
  rw [ne_eq, again_idle_iff.1 double _ _ hdouble]
  decide

end LineEdit

/-! ## Lines put into a document -/

namespace Document

/-- Two documents that may differ in the text of one line only. -/
structure SameBut (d d' : Document) (index : Nat) : Prop where
  lineCount : d'.lineCount = d.lineCount
  ending : ∀ i, d'.ending? i = d.ending? i
  line : ∀ i, i ≠ index → d'.line? i = d.line? i

variable {d d' : Document} {index : Nat} {text : List Char}

theorem SameBut.refl (d : Document) (index : Nat) : d.SameBut d index :=
  ⟨rfl, fun _ => rfl, fun _ _ => rfl⟩

theorem replaceLine_of_mem (h : '\n' ∈ text) : d.replaceLine index text = none := by
  simp [replaceLine, h]

theorem exists_replaceLine {old : List Char} (hline : d.line? index = some old)
    (h : '\n' ∉ text) : ∃ d', d.replaceLine index text = some d' := by
  obtain ⟨l, hl, -⟩ := Option.map_eq_some_iff.1 hline
  exact ⟨_, by rw [replaceLine, if_neg (by simpa using h), hl]; rfl⟩

/-- A line that is put in is there, and nothing else has changed. -/
theorem of_replaceLine (h : d.replaceLine index text = some d') :
    '\n' ∉ text ∧ d'.line? index = some text ∧ d.SameBut d' index := by
  unfold replaceLine at h
  split at h
  · cases h
  · next hn =>
    obtain ⟨l, hl, rfl⟩ := Option.map_eq_some_iff.1 h
    obtain ⟨hlt, -⟩ := List.getElem?_eq_some_iff.1 hl
    have hget (i : Nat) : (d.lines.set index ⟨text, l.ending⟩)[i]? =
        if index = i then some ⟨text, l.ending⟩ else d.lines[i]? := by
      by_cases heq : index = i
      · rw [if_pos heq, ← heq, List.getElem?_set_self hlt]
      · rw [if_neg heq, List.getElem?_set_ne heq]
    refine ⟨by simpa using hn, ?_, ?_, fun i => ?_, fun i hi => ?_⟩
    · rw [line?, hget, if_pos rfl]; rfl
    · exact List.length_set
    · rw [ending?, ending?, hget]
      split
      · next heq => subst heq; rw [hl]; rfl
      · rfl
    · rw [line?, line?, hget, if_neg (Ne.symm hi)]

theorem newlineFree_ofLines {lines : List (List Char)} (h : ∀ line ∈ lines, '\n' ∉ line) :
    (ofLines lines).NewlineFree := by
  fun_induction ofLines lines with
  | case1 => simp [NewlineFree]
  | case2 text => simpa [NewlineFree] using h
  | case3 text rest _ ih =>
    have hrest := ih fun line hl => h line (List.mem_cons_of_mem _ hl)
    intro l hl
    rcases List.mem_cons.1 hl with rfl | hl
    · exact h text List.mem_cons_self
    · exact hrest l hl

theorem newlineFree_iff : d.NewlineFree ↔ ∀ i text, d.line? i = some text → '\n' ∉ text := by
  constructor
  · exact fun hd i text => hd.line?
  · intro h l hl
    obtain ⟨i, hi⟩ := List.mem_iff_getElem?.1 hl
    exact h i l.text (by rw [line?, hi]; rfl)

theorem sameBut_getD_replaceLine (d : Document) (index : Nat) (text : List Char) :
    d.SameBut ((d.replaceLine index text).getD d) index := by
  cases h : d.replaceLine index text with
  | none => exact .refl d index
  | some d' => exact (of_replaceLine h).2.2

theorem NewlineFree.getD_replaceLine (hd : d.NewlineFree) (index : Nat) (text : List Char) :
    ((d.replaceLine index text).getD d).NewlineFree := by
  cases h : d.replaceLine index text with
  | none => exact hd
  | some d' =>
    obtain ⟨hn, hline, hsame⟩ := of_replaceLine h
    refine newlineFree_iff.2 fun i line hi => ?_
    rw [Option.getD_some] at hi
    by_cases heq : i = index
    · rw [heq, hline] at hi
      cases hi
      exact hn
    · exact hd.line? (hsame.line i heq ▸ hi)

end Document

/-! ## What an edit reports -/

namespace LineEdit

/-- The report of an edit, and the document afterwards. A refused edit leaves it as it was. -/
def run (e : LineEdit) (d : Document) : Except EditError EditResult × Document :=
  match e.apply d with
  | .ok (result, d') => (.ok result, d')
  | .error err => (.error err, d)

/-- What the edit reports has happened: a change that it tells of is there to be seen, if it tells of
none there is none, and never does anything but the text of its line change. -/
structure Truthful (e : LineEdit) (d : Document) : Prop where
  applied : ∀ l c, (e.run d).1 = .ok (.applied l c) →
    ∃ line patched, d.line? e.lineIndex = some line ∧ e.applyToLine line = .ok ⟨true, patched⟩ ∧
      (e.run d).2.line? e.lineIndex = some patched ∧ patched ≠ line
  kept : (∀ l c, (e.run d).1 ≠ .ok (.applied l c)) → (e.run d).2 = d
  frame : d.SameBut (e.run d).2 e.lineIndex

variable {e : LineEdit} {d : Document}

/-- A change is reported exactly if the edit of the line goes through, and then the line is put back
as far as it can be. -/
theorem run_cases (e : LineEdit) (d : Document) :
    ((∀ line patched, d.line? e.lineIndex = some line → e.applyToLine line ≠ .ok ⟨true, patched⟩) ∧
        (∀ l c, (e.run d).1 ≠ .ok (.applied l c)) ∧ (e.run d).2 = d) ∨
      ∃ line patched, d.line? e.lineIndex = some line ∧ e.applyToLine line = .ok ⟨true, patched⟩ ∧
        e.run d = (.ok (.applied (e.lineIndex + 1) (e.start + 1)),
          (d.replaceLine e.lineIndex patched).getD d) := by
  unfold run apply
  cases hline : d.line? e.lineIndex with
  | none => exact .inl ⟨by simp, by simp, rfl⟩
  | some line =>
    simp only
    cases hpatch : e.applyToLine line with
    | error err =>
      refine .inl ⟨?_, by simp, rfl⟩
      rintro _ patched ⟨⟩
      simp [hpatch]
    | ok patch =>
      obtain ⟨applied, text⟩ := patch
      cases applied with
      | false =>
        refine .inl ⟨?_, by simp, rfl⟩
        rintro _ patched ⟨⟩
        simp [hpatch]
      | true => exact .inr ⟨line, text, rfl, hpatch, rfl⟩

theorem kept_of_not_applied (h : ∀ l c, (e.run d).1 ≠ .ok (.applied l c)) : (e.run d).2 = d := by
  obtain ⟨-, -, hkept⟩ | ⟨line, patched, -, -, hrun⟩ := run_cases e d
  · exact hkept
  · exact absurd (congrArg Prod.fst hrun) (h _ _)

theorem sameBut_run (e : LineEdit) (d : Document) : d.SameBut (e.run d).2 e.lineIndex := by
  obtain ⟨-, -, hkept⟩ | ⟨line, patched, -, -, hrun⟩ := run_cases e d
  · rw [hkept]; exact .refl d _
  · rw [hrun]; exact Document.sameBut_getD_replaceLine d _ _

/-- The report of a change is true unless the new line cannot be put back. -/
theorem truthful_iff_of_run {line patched : List Char} (hline : d.line? e.lineIndex = some line)
    (hpatch : e.applyToLine line = .ok ⟨true, patched⟩)
    (hrun : e.run d = (.ok (.applied (e.lineIndex + 1) (e.start + 1)),
      (d.replaceLine e.lineIndex patched).getD d)) : e.Truthful d ↔ '\n' ∉ patched := by
  have hne := (of_applied hpatch).2
  constructor
  · intro h hn
    obtain ⟨old, new, hold, hnew, hafter, -⟩ := h.applied _ _ (by rw [hrun])
    rw [hline] at hold; cases hold
    rw [hpatch] at hnew; cases hnew
    -- the line was refused, so the document still has the old one
    rw [hrun, Document.replaceLine_of_mem hn, Option.getD_none, hline] at hafter
    exact hne (Option.some.inj hafter).symm
  · intro hn
    obtain ⟨d', hd'⟩ := Document.exists_replaceLine hline hn
    have hafter := (Document.of_replaceLine hd').2.1
    refine ⟨fun l c _ => ⟨line, patched, hline, hpatch, ?_, hne⟩, kept_of_not_applied,
      sameBut_run e d⟩
    rw [hrun, hd']; exact hafter

theorem truthful_iff : e.Truthful d ↔
    ∀ line patched, d.line? e.lineIndex = some line → e.applyToLine line = .ok ⟨true, patched⟩ →
      '\n' ∉ patched := by
  obtain ⟨hnone, hreport, -⟩ | ⟨line, patched, hline, hpatch, hrun⟩ := run_cases e d
  · refine iff_of_true ⟨fun l c h => absurd h (hreport l c), kept_of_not_applied, sameBut_run e d⟩ ?_
    exact fun line patched hline hpatch => absurd hpatch (hnone line patched hline)
  · rw [truthful_iff_of_run hline hpatch hrun]
    refine ⟨fun hn line' patched' hline' hpatch' => ?_, fun h => h line patched hline hpatch⟩
    rw [hline] at hline'; cases hline'
    rw [hpatch] at hpatch'; cases hpatch'
    exact hn

/-- A change that is reported and not made is not made in part either. -/
theorem kept_of_not_truthful (h : ¬ e.Truthful d) : (e.run d).2 = d := by
  obtain ⟨-, -, hkept⟩ | ⟨line, patched, hline, hpatch, hrun⟩ := run_cases e d
  · exact hkept
  · rw [truthful_iff_of_run hline hpatch hrun, not_not] at h
    rw [hrun, Document.replaceLine_of_mem h]
    rfl

theorem newlineFree_run (hd : d.NewlineFree) : (e.run d).2.NewlineFree := by
  obtain ⟨-, -, hkept⟩ | ⟨line, patched, -, -, hrun⟩ := run_cases e d
  · rw [hkept]; exact hd
  · rw [hrun]; exact hd.getD_replaceLine _ _

/-- The newlines of a new line come from the new text. -/
theorem truthful_of_no_newline (hd : d.NewlineFree) (he : '\n' ∉ e.newText) : e.Truthful d := by
  refine truthful_iff.2 fun line patched hline hpatch hn => ?_
  rw [(of_applied hpatch).1, LineEdit.patched, List.mem_append, List.mem_append] at hn
  rcases hn with (hn | hn) | hn
  · exact hd.line? hline (List.mem_of_mem_take hn)
  · exact he hn
  · exact hd.line? hline (List.mem_of_mem_drop hn)

theorem AimsAt.no_newline {p : Position} (h : e.AimsAt p) : '\n' ∉ e.newText := by
  obtain ⟨digits, hdigits, -, hnew⟩ := h.texts
  rw [hnew]
  simp [not_mem_of_all_isDigit hdigits]

end LineEdit

/-- A call that may change a document. -/
inductive Change where
  | putLine (index : Nat) (text : List Char)
  | edit (e : LineEdit)

def Change.run (d : Document) : Change → Document
  | putLine index text => (d.replaceLine index text).getD d
  | edit e => (e.run d).2

theorem Change.newlineFree_run {d : Document} (hd : d.NewlineFree) (c : Change) :
    (Change.run d c).NewlineFree := by
  cases c with
  | putLine index text => exact hd.getD_replaceLine index text
  | edit e => exact LineEdit.newlineFree_run hd

theorem Change.newlineFree_foldl {d : Document} (hd : d.NewlineFree) (changes : List Change) :
    (changes.foldl Change.run d).NewlineFree := by
  induction changes generalizing d with
  | nil => exact hd
  | cons c rest ih => exact ih (c.newlineFree_run hd)

/-- **Whether an edit that reports a change has made it.** It has, exactly if the new line has no
newline; if not, nothing has changed. In a document that was read from a text or made from lines
without newlines, and then changed in any way, it has if its new text has no newline, or if a locator
gave it. -/
theorem LineEdit.truthful_exactly (start : Document) (changes : List Change) (e : LineEdit) :
    let d := changes.foldl Change.run start
    d.SameBut (e.run d).2 e.lineIndex ∧
    ((∀ l c, (e.run d).1 ≠ .ok (.applied l c)) → (e.run d).2 = d) ∧
    (¬ e.Truthful d → (e.run d).2 = d) ∧
    (e.Truthful d ↔ ∀ line patched, d.line? e.lineIndex = some line →
      e.applyToLine line = .ok ⟨true, patched⟩ → '\n' ∉ patched) ∧
    (((∃ text, start = .parse text) ∨
        ∃ lines : List (List Char), (∀ line ∈ lines, '\n' ∉ line) ∧ start = .ofLines lines) →
      ('\n' ∉ e.newText ∨ ∃ (loc : Locator) (p : Position), loc.locate d p = .edit e) →
        e.Truthful d) := by
  intro d
  refine ⟨sameBut_run e d, kept_of_not_applied, kept_of_not_truthful, truthful_iff, ?_⟩
  intro hstart he
  have hfree : start.NewlineFree := by
    obtain ⟨text, rfl⟩ | ⟨lines, hlines, rfl⟩ := hstart
    · exact Document.newlineFree_parse text
    · exact Document.newlineFree_ofLines hlines
  have hnew : '\n' ∉ e.newText := by
    obtain hnew | ⟨loc, p, hloc⟩ := he
    · exact hnew
    · exact (Locator.aimsAt_of_locate hloc).no_newline
  exact truthful_of_no_newline (Change.newlineFree_foldl hfree changes) hnew

/-- A text with two terminators, after a line that was refused, one that was put in, and an edit. -/
theorem LineEdit.truthful_exactly_sample :
    let start := Document.parse "x = 1l;\r\ny = 2l;\n"
    let changes := [Change.putLine 0 ['\n'], .putLine 1 "é = 3l;".toList, .edit (.suffix 1 5)]
    let d := changes.foldl Change.run start
    (∃ text, start = .parse text) ∧ d.line? 1 = some "é = 3L;".toList ∧
      Locator.coordinate.locate d (.mk 1 6) = .edit (.suffix 0 5) ∧ (suffix 0 5).Truthful d ∧
      '\n' ∉ (token 1 4 6 "3L".toList "33".toList).newText ∧
      (token 1 4 6 "3L".toList "33".toList).Truthful d := by
  intro start changes d
  have hstart : ∃ text, start = .parse text := ⟨_, rfl⟩
  have hloc : Locator.coordinate.locate d (.mk 1 6) = .edit (.suffix 0 5) := by decide
  have hnew : '\n' ∉ (token 1 4 6 "3L".toList "33".toList).newText := by decide
  obtain ⟨-, -, -, -, hlocated⟩ := truthful_exactly start changes (suffix 0 5)
  obtain ⟨-, -, -, -, hedit⟩ :=
    truthful_exactly start changes (token 1 4 6 "3L".toList "33".toList)
  exact ⟨hstart, by decide, hloc, hlocated (.inl hstart) (.inr ⟨_, _, hloc⟩), hnew,
    hedit (.inl hstart) (.inl hnew)⟩

/-- A line with a newline in it, and a new text with one: both edits report a change, and neither
makes it. -/
theorem LineEdit.reports_unmade_change :
    let lines := Document.ofLines ["1l\nx".toList]
    let text := Document.parse "1l"
    let split := token 0 0 2 "1l".toList "1\nL".toList
    ((suffix 0 1).run lines = (.ok (.applied 1 2), lines) ∧ ¬ (suffix 0 1).Truthful lines) ∧
      split.run text = (.ok (.applied 1 1), text) ∧ ¬ split.Truthful text := by
  intro lines text split
  refine ⟨⟨by decide, fun h => ?_⟩, by decide, fun h => ?_⟩
  · exact truthful_iff.1 h "1l\nx".toList "1L\nx".toList (by decide) (by decide) (by decide)
  · exact truthful_iff.1 h "1l".toList "1\nL".toList (by decide) (by decide) (by decide)

end LongSuffix
