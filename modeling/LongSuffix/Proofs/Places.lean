import LongSuffix.Proofs.Tokens
import LongSuffix.Tree.Literals
import Mathlib.Data.List.DropRight

/-!
# Places and positions

The end of a text is a place, which counts bytes, and a position, which counts characters. Cutting
a longer text there into rows finds the one from the other. The lines of a document are found
at the same ends, though they leave the carriage return of a terminator out: what a row has in front
of a plain character stands in front of it in the line too.
-/

namespace LongSuffix

/-- Some characters, and no line break among them. -/
structure Plain (s : List Char) : Prop where
  ne_nil : s ≠ []
  no_newline : '\n' ∉ s
  no_return : '\r' ∉ s

instance (s : List Char) : Decidable (Plain s) :=
  decidable_of_iff (s ≠ [] ∧ '\n' ∉ s ∧ '\r' ∉ s)
    ⟨fun h => ⟨h.1, h.2.1, h.2.2⟩, fun h => ⟨h.ne_nil, h.no_newline, h.no_return⟩⟩

/-- What follows the last newline. -/
def lastRow (s : List Char) : List Char := s.rtakeWhile (· ≠ '\n')

/-- The place at the end of a text: its bytes, its newlines, and the bytes since the last one. -/
def Place.endOf (s : List Char) : Place := ⟨byteLength s, s.count '\n', byteLength (lastRow s)⟩

/-- The position of a character that follows a text. -/
def Position.endOf (s : List Char) : Position :=
  ⟨s.count '\n' + 1, (lastRow s).length + 1, Nat.succ_pos _, Nat.succ_pos _⟩

variable {s t : List Char}

/-! ## Bytes -/

theorem byteLength_pos (h : s ≠ []) : 0 < byteLength s := by
  cases s with
  | nil => exact absurd rfl h
  | cons c s => have := c.utf8Size_pos; rw [byteLength_cons]; omega

/-- Of two initial parts of a text, the one with fewer bytes comes first. -/
theorem exists_append_of_byteLength_le {u v : List Char} (h : s ++ u = t ++ v)
    (hle : byteLength s ≤ byteLength t) : ∃ m, t = s ++ m := by
  obtain ⟨m, ht, -⟩ | ⟨m, hs, -⟩ := List.append_eq_append_iff.1 h
  · exact ⟨m, ht⟩
  · by_cases hm : m = []
    · exact ⟨[], by rw [hs, hm, List.append_nil, List.append_nil]⟩
    · have := byteLength_pos hm
      rw [hs, byteLength_append] at hle
      omega

theorem eq_of_byteLength_eq {u v : List Char} (h : s ++ u = t ++ v)
    (heq : byteLength s = byteLength t) : s = t := by
  obtain ⟨m, hm⟩ := exists_append_of_byteLength_le h heq.le
  obtain ⟨m', hm'⟩ := exists_append_of_byteLength_le h.symm heq.ge
  exact List.IsPrefix.eq_of_length ⟨m, hm.symm⟩ (le_antisymm (by simp [hm]) (by simp [hm']))

/-! ## Rows -/

@[simp] theorem lastRow_nil : lastRow [] = [] := rfl

theorem lastRow_append (ht : '\n' ∉ t) : lastRow (s ++ t) = lastRow s ++ t := by
  induction t using List.reverseRecOn with
  | nil => simp
  | append_singleton t c ih =>
    simp only [List.mem_append, List.mem_singleton, not_or] at ht
    rw [← List.append_assoc, lastRow,
      List.rtakeWhile_concat_pos _ _ _ (by simpa using Ne.symm ht.2), ← List.append_assoc,
      ← ih ht.1, lastRow]

theorem lastRow_of_not_mem (hs : '\n' ∉ s) : lastRow s = s := by
  simpa using lastRow_append (s := []) hs

theorem lastRow_append_of_mem (ht : '\n' ∈ t) : lastRow (s ++ t) = lastRow t := by
  induction t using List.reverseRecOn with
  | nil => cases ht
  | append_singleton t c ih =>
    rw [← List.append_assoc, lastRow, lastRow, List.rtakeWhile_concat, List.rtakeWhile_concat]
    split
    · next hc =>
      have ht' : '\n' ∈ t := by
        simp only [decide_eq_true_eq] at hc
        simpa [Ne.symm hc] using ht
      rw [← lastRow, ← lastRow, ih ht']
    · rfl

@[simp] theorem lastRow_newline_cons (s : List Char) : lastRow ('\n' :: s) = lastRow s := by
  by_cases hs : '\n' ∈ s
  · exact lastRow_append_of_mem (s := ['\n']) hs
  · rw [lastRow_of_not_mem hs]
    exact lastRow_append (s := ['\n']) hs

/-- A character in front belongs to the last row if no newline comes between. -/
theorem lastRow_cons {c : Char} (hc : c ≠ '\n') (s : List Char) :
    lastRow (c :: s) = if s.count '\n' = 0 then c :: lastRow s else lastRow s := by
  by_cases hs : '\n' ∈ s
  · rw [if_neg (Nat.pos_iff_ne_zero.1 (List.count_pos_iff.2 hs))]
    exact lastRow_append_of_mem (s := [c]) hs
  · rw [if_pos (List.count_eq_zero_of_not_mem hs), lastRow_of_not_mem hs]
    exact lastRow_of_not_mem (by simpa using ⟨Ne.symm hc, hs⟩)

theorem getLast?_of_lastRow {c : Char} (h : (lastRow s).getLast? = some c) :
    s.getLast? = some c := by
  obtain ⟨init, hs⟩ := List.rtakeWhile_suffix (· ≠ '\n') s
  have hcut : s = init ++ lastRow s := hs.symm
  rw [hcut, List.getLast?_append, h, Option.some_or]

theorem splitRows_head (t : List Char) :
    (splitRows t)[0]? = some (t.takeWhile (· ≠ '\n')) := by
  induction t with
  | nil => rfl
  | cons c t ih =>
    rw [splitRows, List.takeWhile_cons]
    by_cases hc : c = '\n'
    · simp [hc]
    · simp only [hc, if_false, ne_eq, not_false_eq_true, decide_true, if_true]
      cases hr : splitRows t with
      | nil => rw [hr] at ih; cases ih
      | cons row more =>
        rw [hr] at ih
        simpa using ih

/-- The row at the end of a part of a text. -/
theorem splitRows_append (s t : List Char) :
    (splitRows (s ++ t))[s.count '\n']? = some (lastRow s ++ t.takeWhile (· ≠ '\n')) := by
  induction s with
  | nil => exact splitRows_head t
  | cons c s ih =>
    rw [List.cons_append, splitRows]
    by_cases hc : c = '\n'
    · subst hc
      simpa using ih
    · rw [if_neg hc, List.count_cons_of_ne hc, lastRow_cons hc]
      cases hr : splitRows (s ++ t) with
      | nil => rw [hr] at ih; cases ih
      | cons row more =>
        rw [hr] at ih
        cases hn : s.count '\n' with
        | zero =>
          rw [hn] at ih
          simpa using ih
        | succ n =>
          rw [hn] at ih
          simpa using ih

theorem positionAt?_endOf (s t : List Char) :
    positionAt? (splitRows (s ++ t)) (Place.endOf s) = some (Position.endOf s) := by
  simp only [positionAt?, Place.endOf, splitRows_append, charsInBytes_append, Option.bind_eq_bind,
    Option.bind_some]
  rfl

/-! ## The order of positions -/

theorem Position.endOf_append (ht : '\n' ∉ t) :
    (endOf (s ++ t)).line = (endOf s).line ∧
      (endOf (s ++ t)).column = (endOf s).column + t.length := by
  constructor
  · simp [endOf, List.count_eq_zero_of_not_mem ht]
  · simp only [endOf, lastRow_append ht, List.length_append]
    omega

theorem Position.endOf_lt_endOf_append (s : List Char) (ht : t ≠ []) :
    endOf s < endOf (s ++ t) := by
  rw [Position.lt_def]
  by_cases hn : '\n' ∈ t
  · have := List.count_pos_iff.2 hn
    simp only [endOf, List.count_append]
    omega
  · obtain ⟨hline, hcolumn⟩ := endOf_append (s := s) hn
    have := List.length_pos_iff.2 ht
    omega

theorem Position.not_endOf_append_lt (s t : List Char) : ¬ endOf (s ++ t) < endOf s := by
  intro h
  by_cases ht : t = []
  · subst ht
    rw [List.append_nil] at h
    exact lt_irrefl _ h
  · exact lt_irrefl _ (lt_trans h (endOf_lt_endOf_append s ht))

/-! ## Lines -/

namespace Document

/-- The lines with a text in front of them. -/
def prepend (s : List Char) : List Line → List Line
  | [] => [⟨s, .none⟩]
  | line :: more => ⟨s ++ line.text, line.ending⟩ :: more

theorem prepend_prepend (s t : List Char) (lines : List Line) :
    prepend s (prepend t lines) = prepend (s ++ t) lines := by
  cases lines with
  | nil => rfl
  | cons line more => simp [prepend]

theorem linesOf_cons {c : Char} (hn : c ≠ '\n') (hr : c = '\r' → t.head? ≠ some '\n') :
    linesOf (c :: t) = prepend [c] (linesOf t) := by
  rw [linesOf]
  · cases linesOf t <;> rfl
  · exact hn
  · rintro rest hc rfl
    exact hr hc rfl

/-- Characters without newline go in front of the first line of what follows them, unless a carriage
return at their end belongs to a terminator. -/
theorem linesOf_append_of_no_newline (hne : s ++ t ≠ []) (hn : '\n' ∉ s)
    (hr : s.getLast? = some '\r' → t.head? ≠ some '\n') :
    linesOf (s ++ t) = prepend s (linesOf t) := by
  induction s with
  | nil =>
    cases hlines : linesOf t with
    | nil => exact absurd (linesOf_eq_nil hlines) hne
    | cons line more => exact hlines
  | cons c s ih =>
    simp only [List.mem_cons, not_or] at hn
    have hhead : c = '\r' → (s ++ t).head? ≠ some '\n' := by
      rintro rfl
      cases s with
      | nil => exact hr rfl
      | cons d s =>
        rintro ⟨⟩
        exact hn.2 List.mem_cons_self
    rw [List.cons_append, linesOf_cons (Ne.symm hn.1) hhead]
    by_cases hst : s ++ t = []
    · obtain ⟨rfl, rfl⟩ := List.append_eq_nil_iff.1 hst
      rfl
    · have hlast : s.getLast? = some '\r' → t.head? ≠ some '\n' :=
        fun h => hr (by rw [List.getLast?_cons, h]; rfl)
      rw [ih hst hn.2 hlast, prepend_prepend]
      rfl

theorem linesOf_plain_append (hs : Plain s) (t : List Char) :
    linesOf (s ++ t) = prepend s (linesOf t) :=
  linesOf_append_of_no_newline (by simp [hs.ne_nil]) hs.no_newline
    fun h => absurd (List.mem_of_getLast? h) hs.no_return

/-- A line ends at every newline. -/
theorem count_le_length_linesOf (s : List Char) : s.count '\n' ≤ (linesOf s).length := by
  fun_induction linesOf s with
  | case1 => rfl
  | case2 rest ih => simpa using ih
  | case3 rest ih => simpa [List.count_cons] using ih
  | case4 c rest hn _ h ih =>
    rw [linesOf_eq_nil h, List.count_cons_of_ne hn]
    exact Nat.zero_le _
  | case5 c rest hn _ line more h ih =>
    rw [List.count_cons_of_ne hn]
    simpa [h] using ih

theorem length_take_linesOf (s : List Char) :
    ((linesOf s).take (s.count '\n')).length = (Position.endOf s).lineIndex := by
  rw [List.length_take, Nat.min_eq_left (count_le_length_linesOf s)]
  rfl

/-- The lines of a text that is cut, but not inside a terminator: those that end before the cut, and
then those after it with the last row in front. -/
theorem linesOf_append (ht : t.head? ≠ some '\n') (hne : t ≠ []) (s : List Char) :
    linesOf (s ++ t) = (linesOf s).take (s.count '\n') ++ prepend (lastRow s) (linesOf t) := by
  fun_induction linesOf s with
  | case1 =>
    cases hlines : linesOf t with
    | nil => exact absurd (linesOf_eq_nil hlines) hne
    | cons line more => simp [prepend, hlines]
  | case2 rest ih => simp [linesOf, ih]
  | case3 rest ih =>
    have hrow : lastRow ('\r' :: '\n' :: rest) = lastRow rest := by
      simp [lastRow_cons (show '\r' ≠ '\n' by decide)]
    simp [linesOf, ih, hrow]
  | case4 c rest hn _ h ih =>
    obtain rfl := linesOf_eq_nil h
    rw [List.cons_append, List.nil_append, linesOf_cons hn fun _ => ht, lastRow_cons hn,
      List.count_cons_of_ne hn]
    simp
  | case5 c rest hn hr line more h ih =>
    have hcons : linesOf (c :: (rest ++ t)) = prepend [c] (linesOf (rest ++ t)) := by
      refine linesOf_cons hn fun hc => ?_
      cases rest with
      | nil => exact ht
      | cons d rest =>
        intro hd
        exact hr rest hc (by simpa using hd)
    rw [List.cons_append, hcons, ih, h, List.count_cons_of_ne hn, lastRow_cons hn]
    cases rest.count '\n' with
    | zero => simp [prepend_prepend]
    | succ n => rfl

/-- The lines around plain characters: what they are has no part in the rest. -/
theorem linesOf_around (s u : List Char) :
    ∃ more ending after, ∀ t, Plain t → linesOf (s ++ (t ++ u)) =
      (linesOf s).take (s.count '\n') ++ ⟨lastRow s ++ (t ++ more), ending⟩ :: after := by
  have hcut : ∀ t, Plain t → linesOf (s ++ (t ++ u)) =
      (linesOf s).take (s.count '\n') ++ prepend (lastRow s ++ t) (linesOf u) := by
    intro t ht
    obtain ⟨c, rest, rfl⟩ := List.exists_cons_of_ne_nil ht.ne_nil
    have hhead : ((c :: rest) ++ u).head? ≠ some '\n' := by
      rintro ⟨⟩
      exact ht.no_newline List.mem_cons_self
    rw [linesOf_append hhead (List.cons_ne_nil _ _), linesOf_plain_append ht, prepend_prepend]
  cases hu : linesOf u with
  | nil => exact ⟨[], .none, [], fun t ht => by rw [hcut t ht, hu]; simp [prepend]⟩
  | cons line more =>
    exact ⟨line.text, line.ending, more, fun t ht => by rw [hcut t ht, hu]; simp [prepend]⟩

theorem line?_around (ht : Plain t) (s u : List Char) :
    ∃ more, line? ⟨linesOf (s ++ (t ++ u))⟩ (Position.endOf s).lineIndex =
      some (lastRow s ++ (t ++ more)) := by
  obtain ⟨more, ending, after, hlines⟩ := linesOf_around s u
  exact ⟨more, by rw [line?, hlines t ht, ← length_take_linesOf]; simp⟩

/-- A document has plain characters at the position where they stand in the text. -/
theorem slice?_around (ht : Plain t) (s u : List Char) :
    slice? ⟨linesOf (s ++ (t ++ u))⟩ (Position.endOf s).lineIndex (Position.endOf s).columnIndex
      (Position.endOf (s ++ t)).columnIndex = some t := by
  obtain ⟨more, hline⟩ := line?_around ht s u
  have hstart : (Position.endOf s).columnIndex = (lastRow s).length := rfl
  have hstop : (Position.endOf (s ++ t)).columnIndex = (lastRow s ++ t).length := by
    rw [← lastRow_append ht.no_newline]
    rfl
  refine slice?_eq_some.2 ⟨_, hline, ?_, ?_⟩
  · rw [hstop, ← List.append_assoc]
    simp
  · rw [hstop, hstart, ← List.append_assoc, List.take_left, List.drop_left]

/-- The character after a part of a text is the one at the end of this part in the document. -/
theorem at?_linesOf {c : Char} (hc : Plain [c]) (s u : List Char) :
    at? ⟨linesOf (s ++ c :: u)⟩ (Position.endOf s) = some c := by
  obtain ⟨more, hline⟩ := line?_around hc s u
  have hcolumn : (Position.endOf s).columnIndex = (lastRow s).length := rfl
  simp only [List.cons_append, List.nil_append] at hline
  rw [at?, char?, hline, hcolumn]
  simp

/-- Raising a letter of a text and raising it in the document of the text is the same. -/
theorem raise_linesOf (s u : List Char) :
    raise ⟨linesOf (s ++ 'l' :: u)⟩ (Position.endOf s) = ⟨linesOf (s ++ 'L' :: u)⟩ := by
  obtain ⟨more, ending, after, hlines⟩ := linesOf_around s u
  have hl := hlines ['l'] ⟨by decide, by decide, by decide⟩
  have hL := hlines ['L'] ⟨by decide, by decide, by decide⟩
  have hindex := length_take_linesOf s
  have hcolumn : (Position.endOf s).columnIndex = (lastRow s).length := rfl
  generalize (linesOf s).take (s.count '\n') = before at hl hL hindex
  simp only [List.cons_append, List.nil_append] at hl hL
  rw [raise, hl, hL, ← hindex, hcolumn]
  simp [List.modify_eq_set_getElem?]

end Document

/-! ## Raised texts -/

theorem raised_refl (s : List Char) : List.Forall₂ Raised s s :=
  List.forall₂_same.2 fun c _ => .same c

theorem raised_letter (s t : List Char) : List.Forall₂ Raised (s ++ 'l' :: t) (s ++ 'L' :: t) :=
  List.rel_append (raised_refl s) (.cons .up (raised_refl t))

theorem lastRow_raised (h : List.Forall₂ Raised s t) :
    List.Forall₂ Raised (lastRow s) (lastRow t) := by
  rw [lastRow, lastRow, List.rtakeWhile, List.rtakeWhile, List.forall₂_reverse_iff]
  refine forall₂_takeWhile (fun hab => ?_) (List.forall₂_reverse_iff.2 h)
  cases hab with
  | same => rfl
  | up => decide

theorem byteLength_raised (h : List.Forall₂ Raised s t) : byteLength s = byteLength t := by
  induction h with
  | nil => rfl
  | cons hab _ ih => rw [byteLength_cons, byteLength_cons, hab.utf8Size_eq, ih]

theorem count_newline_raised (h : List.Forall₂ Raised s t) : s.count '\n' = t.count '\n' := by
  induction h with
  | nil => rfl
  | cons hab _ ih =>
    cases hab with
    | same => rw [List.count_cons, List.count_cons, ih]
    | up => rw [List.count_cons_of_ne (by decide), List.count_cons_of_ne (by decide), ih]

/-- Raising letters moves no end. -/
theorem Place.endOf_raised (h : List.Forall₂ Raised s t) : endOf s = endOf t := by
  rw [endOf, endOf, byteLength_raised h, count_newline_raised h,
    byteLength_raised (lastRow_raised h)]

theorem Position.endOf_raised (h : List.Forall₂ Raised s t) : endOf s = endOf t := by
  rw [ext_iff']
  simp only [endOf, count_newline_raised h, (lastRow_raised h).length_eq, and_self]

end LongSuffix
