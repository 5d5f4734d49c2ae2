import LongSuffix.Position
import Mathlib.Data.List.DropRight
import Mathlib.Data.Nat.Digits.Defs

/-!
# Positions in texts

A text gives a line and a column if it consists of two numerals with a colon between them, with white
space around the text and around each numeral. What reading a text comes to is decided by that and by
the numbers alone: a text that gives none is malformed, whatever else is wrong with it, and a line of
zero is told before a column of zero (`Position.parse_decides`). The text of a position gives the
position back, up to the largest number of 64 bits.
-/

namespace LongSuffix

namespace Text

/-! ## White space around a text -/

/-- The text `t` is `s` without the white space at its two ends. -/
structure Trims (s t : List Char) : Prop where
  around : ∃ before after, s = before ++ (t ++ after) ∧ (∀ c ∈ before, isBlank c = true) ∧
    ∀ c ∈ after, isBlank c = true
  head : ∀ c, t.head? = some c → isBlank c = false
  last : ∀ c, t.getLast? = some c → isBlank c = false

section

variable {p : Char → Bool} {s t : List Char}

theorem head?_dropWhile {c : Char} (h : (s.dropWhile p).head? = some c) : p c = false := by
  have hnot := List.head?_dropWhile_not p s
  rwa [h] at hnot

theorem getLast?_rdropWhile {c : Char} (h : (s.rdropWhile p).getLast? = some c) : p c = false := by
  rw [List.rdropWhile, List.getLast?_reverse] at h
  exact head?_dropWhile h

theorem dropWhile_append_of_head {before : List Char} (hbefore : ∀ c ∈ before, p c = true)
    (ht : ∀ c, t.head? = some c → p c = false) : (before ++ t).dropWhile p = t := by
  rw [List.dropWhile_append_of_pos hbefore]
  cases t with
  | nil => rfl
  | cons c t => rw [List.dropWhile_cons_of_neg (by rw [ht c rfl]; exact Bool.false_ne_true)]

theorem rdropWhile_append_of_last {after : List Char} (hafter : ∀ c ∈ after, p c = true)
    (ht : ∀ c, t.getLast? = some c → p c = false) : (t ++ after).rdropWhile p = t := by
  rw [List.rdropWhile, List.reverse_append, dropWhile_append_of_head, List.reverse_reverse]
  · exact fun c hc => hafter c (List.mem_reverse.1 hc)
  · exact fun c hc => ht c (by rwa [List.head?_reverse] at hc)

end

theorem trims_trim (s : List Char) : Trims s (trim s) := by
  refine ⟨⟨s.takeWhile isBlank, (trimLeft s).rtakeWhile isBlank, ?_, fun c => List.mem_takeWhile_imp,
    fun c => List.mem_rtakeWhile_imp⟩, fun c hc => ?_, fun c => getLast?_rdropWhile⟩
  · rw [show trim s = (trimLeft s).rdropWhile isBlank from rfl, List.rdropWhile_append_rtakeWhile]
    exact List.takeWhile_append_dropWhile.symm
  · -- a text that was cut at its back still has its front
    obtain ⟨after, hafter⟩ : trim s <+: trimLeft s := List.rdropWhile_prefix isBlank _
    refine head?_dropWhile (s := s) (p := isBlank) ?_
    rw [show s.dropWhile isBlank = trim s ++ after from hafter.symm, List.head?_append, hc]
    rfl

theorem trim_eq_iff {s t : List Char} : trim s = t ↔ Trims s t := by
  refine ⟨fun h => h ▸ trims_trim s, fun h => ?_⟩
  obtain ⟨before, after, rfl, hbefore, hafter⟩ := h.around
  rw [trim, trimLeft, List.dropWhile_append_of_pos hbefore]
  have hfront : (t ++ after).dropWhile isBlank = t ++ after ∨ t = [] := by
    cases t with
    | nil => exact .inr rfl
    | cons c t =>
      have hc : ¬ isBlank c = true := by rw [h.head c rfl]; exact Bool.false_ne_true
      exact .inl (List.dropWhile_cons_of_neg hc)
  rcases hfront with hfront | rfl
  · rw [hfront]
    exact rdropWhile_append_of_last hafter h.last
  · rw [List.nil_append, List.dropWhile_eq_nil_iff.2 hafter]
    rfl

/-! ## Numerals -/

/-- A numeral of 64 bits: one or more decimal digits, after at most one plus sign. -/
structure Denotes (s : List Char) (n : Nat) : Prop where
  numeral : ∃ digits, (s = digits ∨ s = '+' :: digits) ∧ digits ≠ [] ∧
    (∀ c ∈ digits, c.isDigit = true) ∧ n = Nat.ofDigits 10 (digits.map digitValue).reverse
  bound : n < 2 ^ 64

theorem decimalValue_eq (digits : List Char) :
    decimalValue digits = Nat.ofDigits 10 (digits.map digitValue).reverse := by
  rw [Nat.ofDigits_eq_foldr, List.foldr_reverse, List.foldl_map]
  unfold decimalValue
  congr 1
  funext n c
  simp [Nat.add_comm]

theorem decimalValue_toDigits (n : Nat) : decimalValue (Nat.toDigits 10 n) = n :=
  Nat.ofDigitChars_ten_toDigits

/-- A numeral without its sign. -/
def unsigned : List Char → List Char
  | '+' :: rest => rest
  | s => s

theorem eq_unsigned_or (s : List Char) : s = unsigned s ∨ s = '+' :: unsigned s := by
  unfold unsigned
  split
  · exact .inr rfl
  · exact .inl rfl

theorem unsigned_of_digits {digits : List Char} (h : ∀ c ∈ digits, c.isDigit = true) :
    unsigned digits = digits := by
  unfold unsigned
  split
  · next rest => exact absurd (h '+' List.mem_cons_self) (by decide)
  · rfl

theorem readWord_eq (s : List Char) :
    readWord s = if (unsigned s).isEmpty || !(unsigned s).all Char.isDigit then none
      else if decimalValue (unsigned s) < 2 ^ 64 then some (decimalValue (unsigned s)) else none :=
  rfl

theorem readWord_eq_some_iff {s : List Char} {n : Nat} : readWord s = some n ↔ Denotes s n := by
  rw [readWord_eq]
  constructor
  · intro h
    split at h
    · cases h
    · next hdigits =>
      split at h
      · next hbound =>
        cases h
        simp only [Bool.or_eq_true, List.isEmpty_iff, Bool.not_eq_true', not_or,
          Bool.not_eq_false, List.all_eq_true] at hdigits
        exact ⟨⟨unsigned s, eq_unsigned_or s, hdigits.1, hdigits.2, decimalValue_eq _⟩, hbound⟩
      · cases h
  · rintro ⟨⟨digits, hs, hne, hdigits, rfl⟩, hbound⟩
    have hunsigned : unsigned s = digits := by
      rcases hs with rfl | rfl
      · exact unsigned_of_digits hdigits
      · rfl
    rw [← decimalValue_eq] at hbound ⊢
    rw [hunsigned, if_neg, if_pos hbound]
    simpa [hne] using hdigits

theorem denotes_toDigits {n : Nat} (h : n < 2 ^ 64) : Denotes (Nat.toDigits 10 n) n := by
  refine ⟨⟨_, .inl rfl, Nat.toDigits_ne_nil, fun c hc => ?_, ?_⟩, h⟩
  · exact Nat.isDigit_of_mem_toDigits (by decide) (by decide) hc
  · rw [← decimalValue_eq, decimalValue_toDigits]

theorem isBlank_of_isDigit {c : Char} (h : c.isDigit = true) : isBlank c = false := by
  have hcode : 48 ≤ c.toNat ∧ c.toNat ≤ 57 := Char.isDigit_iff_toNat.1 h
  rw [← Bool.not_eq_true, isBlank, CodePoints.has_iff]
  rintro ⟨⟨low, high⟩, hmem, hle, hle'⟩
  simp only [whiteSpace, List.mem_cons, Prod.mk.injEq, List.not_mem_nil, or_false] at hmem
  dsimp only at hle hle'
  omega

end Text

/-! ## Positions -/

namespace Position

/-- A text gives a line and a column: around its first colon stand two numerals of 64 bits. -/
def Gives (s : List Char) (line column : Nat) : Prop :=
  ∃ t left right first second, Text.Trims s t ∧ t = left ++ ':' :: right ∧ ':' ∉ left ∧
    (Text.Trims left first ∧ Text.Denotes first line) ∧ Text.Trims right second ∧
      Text.Denotes second column

theorem splitFirst_eq_some_iff {sep : Char} {s left right : List Char} :
    splitFirst sep s = some (left, right) ↔ s = left ++ sep :: right ∧ sep ∉ left := by
  induction s generalizing left with
  | nil => simp [splitFirst]
  | cons c s ih =>
    unfold splitFirst
    cases left with
    | nil =>
      split
      · next h => subst h; simp
      · next h => simp [h]
    | cons x left =>
      split
      · next h =>
        subst h
        simp only [Option.some.injEq, Prod.mk.injEq, List.nil_eq, reduceCtorEq, false_and, false_iff]
        rintro ⟨heq, hnot⟩
        exact hnot (by rw [(List.cons.inj heq).1]; exact List.mem_cons_self)
      · next h =>
        simp only [Option.map_eq_some_iff, Prod.exists, Prod.mk.injEq, List.cons.injEq,
          List.cons_append, List.mem_cons, not_or]
        constructor
        · rintro ⟨a, b, hab, ⟨rfl, rfl⟩, rfl⟩
          obtain ⟨hs, hnot⟩ := ih.1 hab
          exact ⟨⟨rfl, hs⟩, Ne.symm h, hnot⟩
        · rintro ⟨⟨rfl, hs⟩, -, hnot⟩
          exact ⟨left, right, ih.2 ⟨hs, hnot⟩, ⟨rfl, rfl⟩, rfl⟩

theorem readPair_eq_some_iff {s : List Char} {line column : Nat} :
    readPair s = some (line, column) ↔ Gives s line column := by
  unfold readPair
  constructor
  · intro h
    obtain ⟨⟨left, right⟩, hsplit, h⟩ := Option.bind_eq_some_iff.1 h
    obtain ⟨n, hline, h⟩ := Option.bind_eq_some_iff.1 h
    obtain ⟨m, hcolumn, h⟩ := Option.bind_eq_some_iff.1 h
    cases h
    obtain ⟨hs, hnot⟩ := splitFirst_eq_some_iff.1 hsplit
    exact ⟨_, left, right, _, _, Text.trims_trim s, hs, hnot,
      ⟨Text.trims_trim left, Text.readWord_eq_some_iff.1 hline⟩, Text.trims_trim right,
      Text.readWord_eq_some_iff.1 hcolumn⟩
  · rintro ⟨t, left, right, first, second, hs, ht, hnot, ⟨hleft, hline⟩, hright, hcolumn⟩
    rw [Text.trim_eq_iff.2 hs, splitFirst_eq_some_iff.2 ⟨ht, hnot⟩]
    dsimp only [Option.bind_eq_bind, Option.bind_some]
    rw [Text.trim_eq_iff.2 hleft, Text.readWord_eq_some_iff.2 hline, Text.trim_eq_iff.2 hright,
      Text.readWord_eq_some_iff.2 hcolumn]
    rfl

theorem parse_of_gives {s : String} {line column : Nat} (h : Gives s.toList line column) :
    parse s = of line column := by
  rw [parse, readPair_eq_some_iff.2 h]

theorem parse_of_not_gives {s : String} (h : ∀ line column, ¬ Gives s.toList line column) :
    parse s = .error (.malformed s) := by
  have hnone : readPair s.toList = none := by
    cases hread : readPair s.toList with
    | none => rfl
    | some pair => exact absurd (readPair_eq_some_iff.1 hread) (h _ _)
  rw [parse, hnone]

/-- What is to be said of a text: first whether it gives two numbers, then whether the line is
positive, then whether the column is. -/
inductive ReadAs (s : String) : Except PositionError Position → Prop where
  | malformed (h : ∀ line column, ¬ Gives s.toList line column) : ReadAs s (.error (.malformed s))
  | noLine {column : Nat} (h : Gives s.toList 0 column) : ReadAs s (.error (.lineNotPositive 0))
  | noColumn {line : Nat} (hline : 0 < line) (h : Gives s.toList line 0) :
    ReadAs s (.error (.columnNotPositive 0))
  | position {line column : Nat} (hline : 0 < line) (hcolumn : 0 < column)
    (h : Gives s.toList line column) : ReadAs s (.ok ⟨line, column, hline, hcolumn⟩)

theorem readAs_parse (s : String) : ReadAs s (parse s) := by
  by_cases hgives : ∃ line column, Gives s.toList line column
  · obtain ⟨line, column, h⟩ := hgives
    rw [parse_of_gives h]
    unfold of
    split
    · next hline =>
      split
      · next hcolumn => exact .position hline hcolumn h
      · next hcolumn =>
        obtain rfl := Nat.eq_zero_of_not_pos hcolumn
        exact .noColumn hline h
    · next hline =>
      obtain rfl := Nat.eq_zero_of_not_pos hline
      exact .noLine h
  · have hnone : ∀ line column, ¬ Gives s.toList line column := fun line column h =>
      hgives ⟨line, column, h⟩
    rw [parse_of_not_gives hnone]
    exact .malformed hnone

theorem parse_of_readAs {s : String} {r : Except PositionError Position} (h : ReadAs s r) :
    parse s = r := by
  cases h with
  | malformed h => exact parse_of_not_gives h
  | noLine h => exact parse_of_gives h
  | noColumn hline h => rw [parse_of_gives h, of, dif_pos hline]; rfl
  | position hline hcolumn h => rw [parse_of_gives h, of, dif_pos hline, dif_pos hcolumn]

/-! ## The text of a position -/

theorem toList_text (p : Position) :
    p.text.toList = Nat.toDigits 10 p.line ++ ':' :: Nat.toDigits 10 p.column := by
  have hcolon : (toString ":").toList = [':'] := by decide
  simp [text, Nat.toString_eq_repr, Nat.toList_repr, hcolon]

theorem isDigit_of_mem_toDigits {n : Nat} {c : Char} (h : c ∈ Nat.toDigits 10 n) :
    c.isDigit = true :=
  Nat.isDigit_of_mem_toDigits (by decide) (by decide) h

/-- Text with digits at its ends has no white space there. -/
theorem trims_self {s : List Char} (hhead : ∀ c, s.head? = some c → c.isDigit = true)
    (hlast : ∀ c, s.getLast? = some c → c.isDigit = true) : Text.Trims s s :=
  ⟨⟨[], [], (List.append_nil s).symm, by simp, by simp⟩,
    fun c hc => Text.isBlank_of_isDigit (hhead c hc),
    fun c hc => Text.isBlank_of_isDigit (hlast c hc)⟩

theorem trims_toDigits (n : Nat) : Text.Trims (Nat.toDigits 10 n) (Nat.toDigits 10 n) :=
  trims_self (fun _ hc => isDigit_of_mem_toDigits (List.mem_of_mem_head? hc))
    fun _ hc => isDigit_of_mem_toDigits (List.mem_of_getLast? hc)

theorem gives_text {p : Position} (hline : p.line < 2 ^ 64) (hcolumn : p.column < 2 ^ 64) :
    Gives p.text.toList p.line p.column := by
  refine ⟨_, Nat.toDigits 10 p.line, Nat.toDigits 10 p.column, _, _, ?_, p.toList_text, ?_,
    ⟨trims_toDigits _, Text.denotes_toDigits hline⟩, trims_toDigits _,
    Text.denotes_toDigits hcolumn⟩
  · rw [toList_text]
    refine trims_self (fun c hc => ?_) fun c hc => ?_
    · rw [List.head?_append_of_ne_nil _ Nat.toDigits_ne_nil] at hc
      exact isDigit_of_mem_toDigits (List.mem_of_mem_head? hc)
    · rw [List.getLast?_append_of_ne_nil _ (List.cons_ne_nil _ _),
        List.getLast?_cons_of_ne_nil Nat.toDigits_ne_nil] at hc
      exact isDigit_of_mem_toDigits (List.mem_of_getLast? hc)
  · exact fun hc => absurd (isDigit_of_mem_toDigits hc) (by decide)

/-- **What reading a text comes to** is decided by the numbers that the text gives. The text of a
position of 64 bits is read as that position. -/
theorem parse_decides :
    (∀ (s : String) (r : Except PositionError Position), parse s = r ↔ ReadAs s r) ∧
    ∀ p : Position, p.line < 2 ^ 64 → p.column < 2 ^ 64 → parse p.text = .ok p := by
  refine ⟨fun s r => ⟨?_, parse_of_readAs⟩, fun p hline hcolumn => ?_⟩
  · rintro rfl
    exact readAs_parse s
  · exact parse_of_readAs (.position p.line_pos p.column_pos (gives_text hline hcolumn))

/-- The largest number of 64 bits; a text with white space of several kinds, a sign and zeros in front;
and one with a second colon. -/
theorem parse_decides_sample :
    let p : Position := .mk 18446744073709551615 1
    (p.line < 2 ^ 64 ∧ p.column < 2 ^ 64) ∧ parse p.text = .ok p ∧
      ReadAs "\u3000+007 :\t0 " (.error (.columnNotPositive 0)) ∧
      ReadAs "0:1:1" (.error (.malformed "0:1:1")) := by
  intro p
  have hbounds : p.line < 2 ^ 64 ∧ p.column < 2 ^ 64 := by decide
  obtain ⟨hdecides, htext⟩ := parse_decides
  exact ⟨hbounds, htext p hbounds.1 hbounds.2, (hdecides _ _).1 (by decide),
    (hdecides _ _).1 (by decide)⟩

end Position

end LongSuffix
