import LongSuffix.Java.Lexeme
import LongSuffix.Proofs.Coordinate

/-!
# Words around a letter

By coordinate only the text in front of a letter is looked at, and only ASCII letters, digits and
underscores are taken for characters of words. So what is raised is any `l` of such a word that starts
with a digit, behind its first character (`locates_iff`): not only the one at its end. Words of the
source language may have more characters, such as `$` and letters beyond ASCII. Whatever these are, where
a word has none of them no letter of an identifier is raised, and a letter that is raised closes a numeric
word exactly if it is the last one (`coordinate_touches`). Otherwise it may stand inside a longer word, or
in an identifier (`coordinate_touches_identifiers`).
-/

namespace LongSuffix

/-! ## Words -/

/-- From `first` up to `stop` a text has characters of a class, and no longer run has. -/
structure IsWord (isPart : Char → Bool) (text : List Char) (first stop : Nat) : Prop where
  parts : ∀ i, first ≤ i → i < stop → ∃ c, text[i]? = some c ∧ isPart c = true
  front : first = 0 ∨ ∃ c, text[first - 1]? = some c ∧ isPart c = false
  back : ∀ c, text[stop]? = some c → isPart c = false

/-- A decimal digit stands at a column. -/
def DigitAt (text : List Char) (column : Nat) : Prop :=
  ∃ c, text[column]? = some c ∧ c.isDigit = true

section

variable {isPart isPart' : Char → Bool} {text : List Char} {first stop first' stop' i : Nat}

/-- A run reaches as far as its characters go. -/
theorem exists_back {c : Char} (h : text[i]? = some c) (hc : isPart c = true) :
    ∃ stop, i < stop ∧ (∀ j, i ≤ j → j < stop → ∃ c, text[j]? = some c ∧ isPart c = true) ∧
      ∀ c, text[stop]? = some c → isPart c = false := by
  induction hn : text.length - i generalizing i c with
  | zero =>
    have := (List.getElem?_eq_some_iff.1 h).1
    omega
  | succ n ih =>
    have hhere : ∀ j, i ≤ j → j < i + 1 → ∃ c, text[j]? = some c ∧ isPart c = true := by
      intro j hj hj'
      obtain rfl : j = i := by omega
      exact ⟨c, h, hc⟩
    cases hnext : text[i + 1]? with
    | none => exact ⟨i + 1, Nat.lt_succ_self i, hhere, by simp [hnext]⟩
    | some x =>
      cases hx : isPart x with
      | false =>
        refine ⟨i + 1, Nat.lt_succ_self i, hhere, fun y hy => ?_⟩
        rw [hnext] at hy
        cases hy
        exact hx
      | true =>
        obtain ⟨stop, hlt, hparts, hback⟩ := ih hnext hx (by omega)
        refine ⟨stop, by omega, fun j hj hj' => ?_, hback⟩
        rcases Nat.eq_or_lt_of_le hj with rfl | hj
        · exact ⟨c, h, hc⟩
        · exact hparts j hj hj'

theorem exists_front {c : Char} (h : text[i]? = some c) (hc : isPart c = true) :
    ∃ first, first ≤ i ∧ (∀ j, first ≤ j → j ≤ i → ∃ c, text[j]? = some c ∧ isPart c = true) ∧
      (first = 0 ∨ ∃ c, text[first - 1]? = some c ∧ isPart c = false) := by
  have hhere : ∀ j, i ≤ j → j ≤ i → ∃ c, text[j]? = some c ∧ isPart c = true := by
    intro j hj hj'
    obtain rfl : j = i := by omega
    exact ⟨c, h, hc⟩
  induction i generalizing c with
  | zero => exact ⟨0, Nat.le_refl 0, hhere, .inl rfl⟩
  | succ i ih =>
    have hlt : i < text.length := by
      have := (List.getElem?_eq_some_iff.1 h).1
      omega
    have hprev : text[i]? = some (text[i]) := List.getElem?_eq_getElem hlt
    cases hpart : isPart text[i] with
    | false => exact ⟨i + 1, Nat.le_refl _, hhere, .inr ⟨_, hprev, hpart⟩⟩
    | true =>
      have hthere : ∀ j, i ≤ j → j ≤ i → ∃ c, text[j]? = some c ∧ isPart c = true := by
        intro j hj hj'
        obtain rfl : j = i := by omega
        exact ⟨_, hprev, hpart⟩
      obtain ⟨first, hle, hparts, hfront⟩ := ih hprev hpart hthere
      refine ⟨first, by omega, fun j hj hj' => ?_, hfront⟩
      rcases Nat.lt_or_ge i j with hlt | hge
      · exact hhere j (by omega) hj'
      · exact hparts j hj hge

/-- Around every character of a class there is a word. -/
theorem exists_isWord {c : Char} (h : text[i]? = some c) (hc : isPart c = true) :
    ∃ first stop, IsWord isPart text first stop ∧ first ≤ i ∧ i < stop := by
  obtain ⟨first, hfirst, hparts, hfront⟩ := exists_front h hc
  obtain ⟨stop, hstop, hparts', hback⟩ := exists_back h hc
  refine ⟨first, stop, ⟨fun j hj hj' => ?_, hfront, hback⟩, hfirst, hstop⟩
  rcases Nat.le_total j i with hle | hle
  · exact hparts j hj hle
  · exact hparts' j hle hj'

theorem isWord_of_all (h : text.all isPart = true) : IsWord isPart text 0 text.length := by
  refine ⟨fun i _ hi => ?_, .inl rfl, by simp⟩
  exact ⟨_, List.getElem?_eq_getElem hi, List.all_eq_true.1 h _ (List.getElem_mem hi)⟩

/-- A word of a class lies inside the word of a wider one around it. -/
theorem IsWord.within (h : IsWord isPart text first stop) (h' : IsWord isPart' text first' stop')
    (hwide : ∀ c, isPart c = true → isPart' c = true) (hfirst : first ≤ i) (hstop : i < stop)
    (hfirst' : first' ≤ i) (hstop' : i < stop') : first' ≤ first ∧ stop ≤ stop' := by
  constructor
  · by_contra hlt
    rcases h'.front with rfl | ⟨c, hc, hnot⟩
    · omega
    · obtain ⟨x, hx, hpart⟩ := h.parts (first' - 1) (by omega) (by omega)
      rw [hc] at hx
      cases hx
      rw [hwide c hpart] at hnot
      cases hnot
  · by_contra hlt
    obtain ⟨x, hx, hpart⟩ := h.parts stop' (by omega) (by omega)
    have := h'.back x hx
    rw [hwide x hpart] at this
    cases this

/-- A column lies in one word only. -/
theorem IsWord.unique (h : IsWord isPart text first stop) (h' : IsWord isPart text first' stop')
    (hfirst : first ≤ i) (hstop : i < stop) (hfirst' : first' ≤ i) (hstop' : i < stop') :
    first' = first ∧ stop' = stop := by
  obtain ⟨hle, hle'⟩ := h.within h' (fun _ hc => hc) hfirst hstop hfirst' hstop'
  obtain ⟨hge, hge'⟩ := h'.within h (fun _ hc => hc) hfirst' hstop' hfirst hstop
  omega

/-- If the word around a word of a narrower class reaches further to the front, a character of the
wider class alone stands between. -/
theorem IsWord.exists_between (h : IsWord isPart text first stop)
    (h' : IsWord isPart' text first' stop') (hlt : first' < first) (hle : first ≤ stop') :
    ∃ c, text[first - 1]? = some c ∧ isPart' c = true ∧ isPart c = false := by
  obtain ⟨c, hc, hpart⟩ := h'.parts (first - 1) (by omega) (by omega)
  rcases h.front with rfl | ⟨x, hx, hnot⟩
  · omega
  · rw [hc] at hx
    cases hx
    exact ⟨c, hc, hpart, hnot⟩

end

/-! ## Letters that are raised -/

/-- A word of ASCII letters, digits and underscores that starts with a digit. -/
structure IsNumericWord (text : List Char) (first stop : Nat) : Prop extends
  IsWord isWordChar text first stop where
  digit : DigitAt text first

/-- The letter at a column is the last one of a word of a class of characters, which starts with a
digit. -/
def ClosesNumber (isPart : Char → Bool) (text : List Char) (column : Nat) : Prop :=
  ∃ first, first ≤ column ∧ IsWord isPart text first (column + 1) ∧ DigitAt text first

theorem ClosesNumber.iff_of_isWord {isPart : Char → Bool} {text : List Char} {first stop i : Nat}
    (h : IsWord isPart text first stop) (hfirst : first ≤ i) (hstop : i < stop) :
    ClosesNumber isPart text i ↔ DigitAt text first ∧ stop = i + 1 := by
  constructor
  · rintro ⟨first', hfirst', h', hdigit⟩
    obtain ⟨rfl, rfl⟩ := h.unique h' hfirst hstop hfirst' (Nat.lt_succ_self i)
    exact ⟨hdigit, rfl⟩
  · rintro ⟨hdigit, rfl⟩
    exact ⟨first, hfirst, h, hdigit⟩

/-- A letter behind a number stands in the numeric word that the number starts. -/
theorem numberEndsAt_iff {text : List Char} {i : Nat} {c : Char} (h : text[i]? = some c)
    (hc : isWordChar c = true) :
    NumberEndsAt text i ↔ ∃ first stop, IsNumericWord text first stop ∧ first < i ∧ i < stop := by
  constructor
  · rintro ⟨first, hlt, hdigit, hparts, hfront⟩
    obtain ⟨stop, hstop, hparts', hback⟩ := exists_back h hc
    refine ⟨first, stop, ⟨⟨fun j hj hj' => ?_, hfront, hback⟩, hdigit⟩, hlt, hstop⟩
    rcases Nat.lt_or_ge j i with hji | hij
    · exact hparts j hj hji
    · exact hparts' j hij hj'
  · rintro ⟨first, stop, hword, hlt, hstop⟩
    exact ⟨first, hlt, hword.digit, fun j hj hj' => hword.parts j hj (by omega), hword.front⟩

/-- The words of the source language are no narrower. -/
theorem Java.isWordPart_of_isWordChar (c : Char) (h : isWordChar c = true) : isWordPart c = true := by
  simp only [isWordChar, Bool.or_eq_true] at h
  simp only [isWordPart, Text.isXidContinue, Bool.or_eq_true]
  tauto

namespace Locator

variable {d : Document} {p : Position} {text : List Char}

theorem locates_iff (hline : d.line? p.lineIndex = some text) :
    (∃ e, coordinate.locate d p = .edit e) ↔ text[p.columnIndex]? = some 'l' ∧
      ∃ first stop, IsNumericWord text first stop ∧ first < p.columnIndex ∧ p.columnIndex < stop := by
  constructor
  · rintro ⟨e, he⟩
    have hdecided := decidedAt_locate d p
    rw [he] at hdecided
    cases hdecided with
    | suffix hline' hfound hnumber =>
      rw [hline] at hline'
      cases hline'
      exact ⟨hfound, (numberEndsAt_iff hfound (by decide)).1 hnumber⟩
  · rintro ⟨hfound, hword⟩
    exact ⟨_, locate_of_decidedAt (.suffix hline hfound ((numberEndsAt_iff hfound (by decide)).2 hword))⟩

/-- **What is raised by coordinate.** An `l` of a numeric word, behind its first character, whatever
follows it. Words of the source language are made of these characters and maybe of others. The letter
closes such a word that starts with a digit, exactly if the word ends with it and does start with one; it
does unless one of the other characters stands in front of the digits. -/
theorem coordinate_touches (d : Document) (p : Position) (text : List Char)
    (hline : d.line? p.lineIndex = some text) :
    ((∃ e, coordinate.locate d p = .edit e) ↔ text[p.columnIndex]? = some 'l' ∧
      ∃ first stop, IsNumericWord text first stop ∧ first < p.columnIndex ∧ p.columnIndex < stop) ∧
    ∀ isPart : Char → Bool, (∀ c, isWordChar c = true → isPart c = true) →
      ∀ e, coordinate.locate d p = .edit e →
        ∃ first stop, IsWord isPart text first stop ∧ first ≤ p.columnIndex ∧
          p.columnIndex < stop ∧
          (ClosesNumber isPart text p.columnIndex ↔
            DigitAt text first ∧ stop = p.columnIndex + 1) ∧
          (DigitAt text first ∨ ∃ k c, first < k ∧ k < p.columnIndex ∧ DigitAt text k ∧
            text[k - 1]? = some c ∧ isPart c = true ∧ isWordChar c = false) := by
  refine ⟨locates_iff hline, fun isPart hwide e he => ?_⟩
  obtain ⟨hfound, k, kstop, hnumber, hk, hkstop⟩ := (locates_iff hline).1 ⟨e, he⟩
  obtain ⟨first, stop, hword, hfirst, hstop⟩ := exists_isWord hfound (hwide 'l' (by decide))
  refine ⟨first, stop, hword, hfirst, hstop, ClosesNumber.iff_of_isWord hword hfirst hstop, ?_⟩
  have hle := (hnumber.within hword hwide (Nat.le_of_lt hk) hkstop hfirst hstop).1
  rcases Nat.eq_or_lt_of_le hle with rfl | hlt
  · exact .inl hnumber.digit
  · obtain ⟨c, hc, hpart, hnot⟩ := hnumber.exists_between hword hlt (by omega)
    exact .inr ⟨k, c, hlt, hk, hnumber.digit, hc, hpart, hnot⟩

/-- The letter of the number is raised, and it closes it. -/
theorem coordinate_touches_sample :
    let text := "cafel+0xFl;".toList
    let d : Document := .ofLines [text]
    d.line? (Position.mk 1 10).lineIndex = some text ∧
      (∀ c, isWordChar c = true → Java.isWordPart c = true) ∧
      coordinate.locate d (.mk 1 10) = .edit (.suffix 0 9) ∧
      (∃ first stop, IsNumericWord text first stop ∧ first < 9 ∧ 9 < stop) ∧
      ∃ first stop, IsWord Java.isWordPart text first stop ∧ first ≤ 9 ∧ 9 < stop ∧
        (ClosesNumber Java.isWordPart text 9 ↔ DigitAt text first ∧ stop = 10) := by
  intro text d
  have hline : d.line? (Position.mk 1 10).lineIndex = some text := rfl
  have hloc : coordinate.locate d (.mk 1 10) = .edit (.suffix 0 9) := by decide
  obtain ⟨hiff, htouches⟩ := coordinate_touches d (.mk 1 10) text hline
  obtain ⟨first, stop, hword, hfirst, hstop, hcloses, -⟩ :=
    htouches Java.isWordPart Java.isWordPart_of_isWordChar _ hloc
  exact ⟨hline, Java.isWordPart_of_isWordChar, hloc, (hiff.1 ⟨_, hloc⟩).2, first, stop, hword, hfirst,
    hstop, hcloses⟩

/-- A letter inside a longer word, and letters of identifiers: all of them are raised, and none closes
a number. -/
theorem coordinate_touches_identifiers :
    (coordinate.locate (.ofLines ["1ll".toList]) (.mk 1 2) = .edit (.suffix 0 1) ∧
      ¬ ClosesNumber Java.isWordPart "1ll".toList 1) ∧
    (coordinate.locate (.ofLines ["$1l".toList]) (.mk 1 3) = .edit (.suffix 0 2) ∧
      ¬ ClosesNumber Java.isWordPart "$1l".toList 2) ∧
    coordinate.locate (.ofLines ["é1l".toList]) (.mk 1 3) = .edit (.suffix 0 2) ∧
      ¬ ClosesNumber Java.isWordPart "é1l".toList 2 := by
  have hlong : IsWord Java.isWordPart "1ll".toList 0 3 := isWord_of_all (by decide)
  have hdollar : IsWord Java.isWordPart "$1l".toList 0 3 := isWord_of_all (by decide)
  have hletter : IsWord Java.isWordPart "é1l".toList 0 3 := isWord_of_all (by decide)
  refine ⟨⟨by decide, ?_⟩, ⟨by decide, ?_⟩, by decide, ?_⟩
  · rw [ClosesNumber.iff_of_isWord hlong (by decide) (by decide)]
    exact fun h => absurd h.2 (by decide)
  · rw [ClosesNumber.iff_of_isWord hdollar (by decide) (by decide)]
    rintro ⟨⟨c, hc, hdigit⟩, -⟩
    cases hc
    exact absurd hdigit (by decide)
  · rw [ClosesNumber.iff_of_isWord hletter (by decide) (by decide)]
    rintro ⟨⟨c, hc, hdigit⟩, -⟩
    cases hc
    exact absurd hdigit (by decide)

end Locator

end LongSuffix
