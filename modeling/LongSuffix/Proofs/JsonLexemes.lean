import LongSuffix.Proofs.JsonNumbers

/-!
# Lexemes of JSON

What a token is written as: a mark, a word, a number or a string in quotes (`Lexeme`). A text is a row
of lexemes with blanks around them (`Lexes`). Cutting a text into tokens finds the lexemes that it is
made of; and where no token is malformed, the text is made of lexemes (`lexes_iff`).
-/

namespace LongSuffix.Json

/-! ## Strings -/

/-- What stands behind a backslash, and the character that is meant. -/
inductive Escape : Char → Char → Prop where
  | quote : Escape '"' '"'
  | backslash : Escape '\\' '\\'
  | slash : Escape '/' '/'
  | backspace : Escape 'b' '\x08'
  | formFeed : Escape 'f' '\x0c'
  | newline : Escape 'n' '\n'
  | carriageReturn : Escape 'r' '\r'
  | tab : Escape 't' '\t'

/-- A hexadecimal digit, small or capital, and its value. -/
def IsHex (c : Char) (n : Nat) : Prop :=
  n < 16 ∧ (c = Nat.digitChar n ∨ c = (Nat.digitChar n).toUpper)

/-- What stands between the quotes of a string, and the pieces that it is made of. -/
inductive Pieces : List Char → List Piece → Prop where
  | nil : Pieces [] []
  | char {c : Char} {s : List Char} {ps : List Piece} (hcontrol : 0x20 ≤ c.toNat) (hquote : c ≠ '"')
    (hslash : c ≠ '\\') (h : Pieces s ps) : Pieces (c :: s) (.char c :: ps)
  | escape {c e : Char} {s : List Char} {ps : List Piece} (he : Escape c e)
    (h : Pieces s ps) : Pieces ('\\' :: c :: s) (.char e :: ps)
  | unit {a b c d : Char} {i j k l : Nat} {s : List Char} {ps : List Piece} (ha : IsHex a i)
    (hb : IsHex b j) (hc : IsHex c k) (hd : IsHex d l) (h : Pieces s ps) :
    Pieces ('\\' :: 'u' :: a :: b :: c :: d :: s) (.unit (((i * 16 + j) * 16 + k) * 16 + l) :: ps)

/-- The characters that pieces stand for. Surrogates stand for one in pairs only. -/
inductive Stands : List Piece → List Char → Prop where
  | nil : Stands [] []
  | char {c : Char} {ps : List Piece} {cs : List Char} (h : Stands ps cs) :
    Stands (.char c :: ps) (c :: cs)
  | unit {n : Nat} {ps : List Piece} {cs : List Char} (hn : n < 0xD800 ∨ 0xE000 ≤ n)
    (h : Stands ps cs) : Stands (.unit n :: ps) (Char.ofNat n :: cs)
  | pair {m n : Nat} {ps : List Piece} {cs : List Char} (hhigh : 0xD800 ≤ m ∧ m < 0xDC00)
    (hlow : 0xDC00 ≤ n ∧ n < 0xE000) (h : Stands ps cs) :
    Stands (.unit m :: .unit n :: ps)
      (Char.ofNat ((m - 0xD800) * 0x400 + (n - 0xDC00) + 0x10000) :: cs)

theorem simpleEscape?_eq_some_iff {c e : Char} : simpleEscape? c = some e ↔ Escape c e := by
  constructor
  · intro h
    unfold simpleEscape? at h
    split at h <;> cases h <;> constructor
  · intro h
    cases h <;> rfl

/-- A character in a row of characters, by its place in the row. -/
theorem eq_ofNat_of_between {first last c : Char} (h : (first ≤ c && c ≤ last) = true) :
    c = Char.ofNat (first.toNat + (c.toNat - first.toNat)) ∧
      c.toNat - first.toNat ≤ last.toNat - first.toNat := by
  simp only [Bool.and_eq_true, decide_eq_true_eq] at h
  have hfirst : first.toNat ≤ c.toNat := h.1
  have hlast : c.toNat ≤ last.toNat := h.2
  refine ⟨?_, by omega⟩
  rw [Nat.add_sub_cancel' hfirst, Char.ofNat_toNat]

theorem hexValue?_eq_some_iff {c : Char} {n : Nat} : hexValue? c = some n ↔ IsHex c n := by
  constructor
  · have hdigit : ∀ k < 10, Char.ofNat ('0'.toNat + k) = Nat.digitChar k := by decide
    have hsmall : ∀ k < 6, Char.ofNat ('a'.toNat + k) = Nat.digitChar (k + 10) := by decide
    have hcapital : ∀ k < 6, Char.ofNat ('A'.toNat + k) = (Nat.digitChar (k + 10)).toUpper := by
      decide
    intro h
    unfold hexValue? at h
    split at h
    · next hc =>
      obtain ⟨heq, hle⟩ := eq_ofNat_of_between hc
      have hlt := Nat.lt_succ_of_le hle
      cases h
      exact ⟨Nat.lt_trans hlt (by decide), .inl (heq.trans (hdigit _ hlt))⟩
    · split at h
      · next hc =>
        obtain ⟨heq, hle⟩ := eq_ofNat_of_between hc
        have hlt := Nat.lt_succ_of_le hle
        cases h
        exact ⟨Nat.add_lt_add_right hlt 10, .inl (heq.trans (hsmall _ hlt))⟩
      · split at h
        · next hc =>
          obtain ⟨heq, hle⟩ := eq_ofNat_of_between hc
          have hlt := Nat.lt_succ_of_le hle
          cases h
          exact ⟨Nat.add_lt_add_right hlt 10, .inr (heq.trans (hcapital _ hlt))⟩
        · cases h
  · have hsmall : ∀ n < 16, hexValue? (Nat.digitChar n) = some n := by decide
    have hcapital : ∀ n < 16, hexValue? (Nat.digitChar n).toUpper = some n := by decide
    rintro ⟨hn, rfl | rfl⟩
    · exact hsmall n hn
    · exact hcapital n hn

theorem pieces?_append {s rest : List Char} {ps : List Piece} (h : Pieces s ps) :
    pieces? (s ++ '"' :: rest) = some (ps, rest) := by
  induction h with
  | nil => rfl
  | @char c s ps hcontrol hquote hslash _ ih =>
    have hplain : (decide (c.toNat < 0x20) || c == '\\') = false := by
      simpa [hslash] using hcontrol
    rw [List.cons_append, pieces?, hplain, ih]
    · rfl
    · exact hquote
    · exact fun _ _ _ _ _ hc _ => hslash hc
    · exact fun _ _ hc _ => hslash hc
  | @escape c e s ps he _ ih =>
    have hu : c ≠ 'u' := by cases he <;> decide
    rw [List.cons_append, List.cons_append, pieces?, simpleEscape?_eq_some_iff.2 he,
      Option.bind_eq_bind, Option.bind_some, ih]
    · rfl
    · exact fun _ _ _ _ _ hc _ => hu hc
  | unit ha hb hc hd _ ih =>
    simp [pieces?, hexValue?_eq_some_iff.2 ha, hexValue?_eq_some_iff.2 hb,
      hexValue?_eq_some_iff.2 hc, hexValue?_eq_some_iff.2 hd, ih]

theorem of_pieces? {cs rest : List Char} {ps : List Piece} (h : pieces? cs = some (ps, rest)) :
    ∃ s, cs = s ++ '"' :: rest ∧ Pieces s ps := by
  fun_induction pieces? cs generalizing ps rest with
  | case1 => cases h
  | case2 after =>
    cases h
    exact ⟨[], rfl, .nil⟩
  | case3 a b c d after ih =>
    simp only [Option.bind_eq_bind, Option.bind_eq_some_iff, hexValue?_eq_some_iff,
      Option.pure_def] at h
    obtain ⟨i, ha, j, hb, k, hc, l, hd, ⟨more, rest'⟩, hmore, heq⟩ := h
    cases heq
    obtain ⟨s, rfl, hs⟩ := ih hmore
    exact ⟨_, rfl, .unit ha hb hc hd hs⟩
  | case4 c after hunit ih =>
    simp only [Option.bind_eq_bind, Option.bind_eq_some_iff, simpleEscape?_eq_some_iff,
      Option.pure_def] at h
    obtain ⟨e, he, ⟨more, rest'⟩, hmore, heq⟩ := h
    cases heq
    obtain ⟨s, rfl, hs⟩ := ih hmore
    exact ⟨_, rfl, .escape he hs⟩
  | case5 => cases h
  | case6 c after hquote _ _ hplain ih =>
    obtain ⟨⟨more, rest'⟩, hmore, heq⟩ := Option.map_eq_some_iff.1 h
    cases heq
    obtain ⟨s, rfl, hs⟩ := ih hmore
    simp only [Bool.or_eq_true, decide_eq_true_eq, beq_iff_eq, not_or, Nat.not_lt] at hplain
    exact ⟨_, rfl, .char hplain.1 (fun hc => hquote (by rw [hc])) hplain.2 hs⟩

theorem isHigh_iff {n : Nat} : isHigh n = true ↔ 0xD800 ≤ n ∧ n < 0xDC00 := by
  simp [isHigh]

theorem isLow_iff {n : Nat} : isLow n = true ↔ 0xDC00 ≤ n ∧ n < 0xE000 := by
  simp [isLow]

theorem stands_of_assemble {ps : List Piece} {cs : List Char} (h : assemble ps = some cs) :
    Stands ps cs := by
  fun_induction assemble ps generalizing cs with
  | case1 =>
    cases h
    exact .nil
  | case2 c rest ih =>
    obtain ⟨cs, hcs, rfl⟩ := Option.map_eq_some_iff.1 h
    exact .char (ih hcs)
  | case3 m n rest hhigh hlow ih =>
    obtain ⟨cs, hcs, rfl⟩ := Option.map_eq_some_iff.1 h
    exact .pair (isHigh_iff.1 hhigh) (isLow_iff.1 hlow) (ih hcs)
  | case4 => cases h
  | case5 => cases h
  | case6 m n rest hhigh hlow ih =>
    obtain ⟨cs, hcs, rfl⟩ := Option.map_eq_some_iff.1 h
    rw [isHigh_iff] at hhigh
    rw [isLow_iff] at hlow
    exact .unit (by omega) (ih hcs)
  | case7 => cases h
  | case8 m rest _ hsurrogate ih =>
    obtain ⟨cs, hcs, rfl⟩ := Option.map_eq_some_iff.1 h
    rw [Bool.or_eq_true, isHigh_iff, isLow_iff] at hsurrogate
    exact .unit (by omega) (ih hcs)

theorem assemble_unit {n : Nat} (hn : n < 0xD800 ∨ 0xE000 ≤ n) (ps : List Piece) :
    assemble (.unit n :: ps) = (assemble ps).map (Char.ofNat n :: ·) := by
  have hhigh : ¬ isHigh n = true := by rw [isHigh_iff]; omega
  have hlow : ¬ isLow n = true := by rw [isLow_iff]; omega
  cases ps with
  | nil => simp [assemble, hhigh, hlow]
  | cons p ps =>
    cases p with
    | char c => simp [assemble, hhigh, hlow]
    | unit m => simp [assemble, hhigh, hlow]

theorem assemble_of_stands {ps : List Piece} {cs : List Char} (h : Stands ps cs) :
    assemble ps = some cs := by
  induction h with
  | nil => rfl
  | char _ ih => rw [assemble, ih]; rfl
  | unit hn _ ih => rw [assemble_unit hn, ih]; rfl
  | pair hhigh hlow _ ih =>
    rw [assemble, if_pos (isHigh_iff.2 hhigh), if_pos (isLow_iff.2 hlow), ih]
    rfl

/-! ## Lexemes -/

inductive Mark : Char → Token → Prop where
  | openObject : Mark '\x7b' .openObject
  | closeObject : Mark '\x7d' .closeObject
  | openArray : Mark '[' .openArray
  | closeArray : Mark ']' .closeArray
  | comma : Mark ',' .comma
  | colon : Mark ':' .colon

inductive Word : List Char → Token → Prop where
  | null : Word "null".toList .null
  | yes : Word "true".toList (.boolean true)
  | no : Word "false".toList (.boolean false)

/-- What a token is written as. A natural number of 64 bits is written with digits alone; what other
numbers are read as is left to `NumberText.value`. -/
inductive Lexeme : List Char → Token → Prop where
  | mark {c : Char} {t : Token} (h : Mark c t) : Lexeme [c] t
  | word {w : List Char} {t : Token} (h : Word w t) : Lexeme w t
  | natural {ds : List Char} {n : Nat} (h : IsWhole ds)
    (hn : n = Nat.ofDigits 10 (ds.map Text.digitValue).reverse) (hbound : n < 2 ^ 64) :
    Lexeme ds (.number (.natural n))
  | number {t : NumberText} {s : List Char} (h : t.Spells s) (hother : ∀ n, t.value ≠ .natural n) :
    Lexeme s (.number t.value)
  | text {s cs : List Char} {ps : List Piece} (h : Pieces s ps) (hstands : Stands ps cs) :
    Lexeme ('"' :: (s ++ ['"'])) (.text (some cs))
  | broken {s : List Char} {ps : List Piece} (h : Pieces s ps) (hbroken : ∀ cs, ¬ Stands ps cs) :
    Lexeme ('"' :: (s ++ ['"'])) (.text none)

/-- A text that consists of lexemes and of blanks around them. No digit follows a number: it would
belong to it. -/
inductive Lexes : List Char → List Token → Prop where
  | nil : Lexes [] []
  | blank {c : Char} {cs : List Char} {ts : List Token} (h : Lexes cs ts)
    (hc : c = ' ' ∨ c = '\n' ∨ c = '\t' ∨ c = '\r') : Lexes (c :: cs) ts
  | cons {s rest : List Char} {t : Token} {ts : List Token} (h : Lexeme s t)
    (hend : ∀ x, t = .number x → EndsDigits rest) (hrest : Lexes rest ts) :
    Lexes (s ++ rest) (t :: ts)

theorem spells_of_isWhole {ds : List Char} (h : IsWhole ds) :
    NumberText.Spells ⟨false, ds, none, none⟩ ds :=
  ⟨[], [], by simp, h, .none, .none⟩

/-- A number starts with a minus or a digit. -/
theorem NumberText.Spells.head {t : NumberText} {s : List Char} (h : t.Spells s) :
    ∃ c s', s = c :: s' ∧ (c = '-' ∨ isDigit c = true) := by
  obtain ⟨fraction, exponent, rfl, ⟨⟨hne, hdigits⟩, -⟩, -, -⟩ := h
  cases t.negative with
  | true => exact ⟨'-', _, rfl, .inl rfl⟩
  | false =>
    obtain ⟨c, ds, hds⟩ := List.exists_cons_of_ne_nil hne
    refine ⟨c, ds ++ (fraction ++ exponent), by rw [hds]; rfl, .inr (hdigits c ?_)⟩
    rw [hds]
    exact List.mem_cons_self

/-- A lexeme may start with this: no blank, and nothing that goes on a number but a digit. -/
def Starts (c : Char) : Prop := isBlank c = false ∧ c ≠ '.' ∧ c ≠ 'e' ∧ c ≠ 'E'

instance (c : Char) : Decidable (Starts c) := inferInstanceAs (Decidable (_ ∧ _))

theorem isBlank_iff {c : Char} :
    isBlank c = true ↔ c = ' ' ∨ c = '\n' ∨ c = '\t' ∨ c = '\r' := by
  simp [isBlank, or_assoc]

theorem starts_of_isDigit {c : Char} (h : isDigit c = true) : Starts c := by
  refine ⟨Bool.not_eq_true _ ▸ fun hblank => ?_, ?_, ?_, ?_⟩
  · rcases isBlank_iff.1 hblank with rfl | rfl | rfl | rfl <;> exact absurd h (by decide)
  all_goals
    rintro rfl
    exact absurd h (by decide)

theorem NumberText.Spells.starts {t : NumberText} {s : List Char} (h : t.Spells s) :
    ∃ c s', s = c :: s' ∧ Starts c := by
  obtain ⟨c, s', rfl, rfl | hc⟩ := h.head
  · exact ⟨_, _, rfl, by decide⟩
  · exact ⟨_, _, rfl, starts_of_isDigit hc⟩

theorem Lexeme.head {s : List Char} {t : Token} (h : Lexeme s t) :
    ∃ c s', s = c :: s' ∧ Starts c := by
  cases h with
  | mark h => cases h <;> exact ⟨_, _, rfl, by decide⟩
  | word h => cases h <;> exact ⟨_, _, rfl, by decide⟩
  | natural h _ _ => exact (spells_of_isWhole h).starts
  | number h _ => exact h.starts
  | text | broken => exact ⟨_, _, rfl, by decide⟩

theorem mark?_eq_some_iff {c : Char} {t : Token} : mark? c = some t ↔ Mark c t := by
  constructor
  · intro h
    unfold mark? at h
    split at h <;> cases h <;> constructor
  · intro h
    cases h <;> rfl

theorem mark?_of_isDigit {c : Char} (h : isDigit c = true) : mark? c = none := by
  refine Option.eq_none_iff_forall_ne_some.2 fun t hmark => ?_
  cases mark?_eq_some_iff.1 hmark <;> exact absurd h (by decide)

section

variable {s rest : List Char} {t : Token}

theorem token?_mark {c : Char} (h : Mark c t) : token? (c :: rest) = some (t, rest) := by
  cases h <;> rfl

theorem token?_word (h : Word s t) : token? (s ++ rest) = some (t, rest) := by
  cases h <;> rfl

theorem token?_number {x : NumberText} (h : x.Spells s) (hrest : EndsNumber rest) :
    token? (s ++ rest) = some (.number x.value, rest) := by
  have hnumber := number?_append h hrest
  obtain ⟨c, s', rfl, hc⟩ := h.head
  have hmark : mark? c = none := by
    rcases hc with rfl | hc
    · rfl
    · exact mark?_of_isDigit hc
  have hfront : (c == '-' || isDigit c) = true := by simpa using hc
  rw [List.cons_append] at hnumber ⊢
  rw [token?, hmark]
  · dsimp only
    rw [if_pos hfront, hnumber]
    rfl
  · rintro rfl
    exact absurd hfront (by decide)

theorem token?_text {ps : List Piece} (h : Pieces s ps) :
    token? ('"' :: (s ++ ['"']) ++ rest) = some (.text (assemble ps), rest) := by
  rw [List.cons_append, List.append_assoc, token?, List.singleton_append, pieces?_append h]
  rfl

theorem Lexeme.token?_append (h : Lexeme s t) (hend : ∀ x, t = .number x → EndsNumber rest) :
    token? (s ++ rest) = some (t, rest) := by
  cases h with
  | mark h => exact token?_mark h
  | word h => exact token?_word h
  | @natural _ n h hn hbound =>
    have hvalue : NumberText.value ⟨false, s, none, none⟩ = .natural n :=
      NumberText.value_eq_natural_iff.2
        ⟨⟨rfl, rfl, rfl⟩, hn.trans (Text.decimalValue_eq s).symm, hbound⟩
    rw [token?_number (spells_of_isWhole h) (hend _ rfl), hvalue]
  | number h _ => exact token?_number h (hend _ rfl)
  | text h hstands => rw [token?_text h, assemble_of_stands hstands]
  | broken h hbroken =>
    rw [token?_text h, Option.eq_none_iff_forall_ne_some.2 fun cs hcs =>
      hbroken cs (stands_of_assemble hcs)]

theorem lexeme_of_spells {x : NumberText} (h : x.Spells s) : Lexeme s (.number x.value) := by
  by_cases hnatural : ∃ n, x.value = .natural n
  · obtain ⟨n, hn⟩ := hnatural
    obtain ⟨⟨hnegative, hfraction, hexponent⟩, hvalue, hbound⟩ :=
      NumberText.value_eq_natural_iff.1 hn
    obtain ⟨f, e, hs, hwhole, hf, he⟩ := h
    rw [hfraction] at hf
    rw [hexponent] at he
    cases hf
    cases he
    rw [hn, hs, hnegative]
    simp only [Bool.false_eq_true, if_false, List.append_nil, List.nil_append]
    exact .natural hwhole (hvalue.trans (Text.decimalValue_eq _)) hbound
  · exact .number h fun n hn => hnatural ⟨n, hn⟩

theorem lexeme_of_pieces {ps : List Piece} (h : Pieces s ps) :
    Lexeme ('"' :: (s ++ ['"'])) (.text (assemble ps)) := by
  cases hassemble : assemble ps with
  | none =>
    refine .broken h fun cs hcs => ?_
    rw [assemble_of_stands hcs] at hassemble
    cases hassemble
  | some cs => exact .text h (stands_of_assemble hassemble)

theorem of_word? {cs : List Char} (h : word? cs = some (t, rest)) :
    ∃ s, cs = s ++ rest ∧ Word s t := by
  obtain ⟨⟨w, t'⟩, hfind, heq⟩ := Option.map_eq_some_iff.1 h
  cases heq
  have hprefix : w <+: cs := List.isPrefixOf_iff_prefix.1 (List.find?_some hfind :)
  have hmem := List.mem_of_find?_eq_some hfind
  simp only [words, List.mem_cons, Prod.mk.injEq, List.not_mem_nil, or_false] at hmem
  refine ⟨w, (List.prefix_iff_eq_append.1 hprefix).symm, ?_⟩
  rcases hmem with ⟨rfl, rfl⟩ | ⟨rfl, rfl⟩ | ⟨rfl, rfl⟩ <;> constructor

theorem of_token? {cs : List Char} (h : token? cs = some (t, rest)) :
    (∃ s, cs = s ++ rest ∧ Lexeme s t) ∧ ∀ x, t = .number x → EndsDigits rest := by
  unfold token? at h
  split at h
  · cases h
  · next after =>
    obtain ⟨⟨ps, rest'⟩, hpieces, heq⟩ := Option.map_eq_some_iff.1 h
    obtain ⟨s, rfl, hs⟩ := of_pieces? hpieces
    cases heq
    exact ⟨⟨_, by simp, lexeme_of_pieces hs⟩, fun x hx => by cases hx⟩
  · next c after hquote =>
    split at h
    · next hmark =>
      cases h
      have hmark := mark?_eq_some_iff.1 hmark
      exact ⟨⟨[c], rfl, .mark hmark⟩, fun x hx => by subst hx; cases hmark⟩
    · split at h
      · obtain ⟨⟨x, rest'⟩, hnumber, heq⟩ := Option.map_eq_some_iff.1 h
        obtain ⟨⟨y, s, hcs, hspells, rfl⟩, hrest⟩ := of_number? hnumber
        cases heq
        exact ⟨⟨s, hcs, lexeme_of_spells hspells⟩, fun _ _ => hrest⟩
      · obtain ⟨s, hcs, hword⟩ := of_word? h
        exact ⟨⟨s, hcs, .word hword⟩, fun x hx => by subst hx; cases hword⟩

end

theorem tokens_append {s rest : List Char} {t : Token} (h : Lexeme s t)
    (hend : ∀ x, t = .number x → EndsNumber rest) : tokens (s ++ rest) = t :: tokens rest := by
  have htoken := h.token?_append hend
  obtain ⟨c, s', rfl, hblank, -⟩ := h.head
  have hlength : rest.length ≤ (s' ++ rest).length := by simp
  rw [List.cons_append] at htoken ⊢
  rw [tokens, htoken]
  simp only [hblank, Bool.false_eq_true, if_false, dif_pos hlength]

/-- A text of lexemes that does not start with a digit does not go on a number. -/
theorem Lexes.endsNumber {cs : List Char} {ts : List Token} (h : Lexes cs ts)
    (hcs : EndsDigits cs) : EndsNumber cs := by
  intro c hc
  cases h with
  | nil => cases hc
  | blank _ hblank =>
    cases hc
    rcases hblank with rfl | rfl | rfl | rfl <;> decide
  | cons h _ _ =>
    have hdigit := hcs c hc
    obtain ⟨c', s', rfl, -, hstart⟩ := h.head
    cases hc
    exact ⟨hdigit, hstart⟩

/-- The tokens of a text of lexemes are those of its lexemes. -/
theorem Lexes.tokens_eq {cs : List Char} {ts : List Token} (h : Lexes cs ts) : tokens cs = ts := by
  induction h with
  | nil => rw [tokens]
  | blank _ hc ih => rw [tokens, if_pos (isBlank_iff.2 hc), ih]
  | cons h hend hrest ih =>
    rw [tokens_append h fun x hx => hrest.endsNumber (hend x hx), ih]

theorem lexes_tokens {cs : List Char} (h : .malformed ∉ tokens cs) : Lexes cs (tokens cs) := by
  fun_induction tokens cs with
  | case1 => exact .nil
  | case2 c rest hc ih => exact .blank (ih h) (isBlank_iff.1 hc)
  | case3 => exact absurd List.mem_cons_self h
  | case4 c rest hc t after htoken hlength ih =>
    obtain ⟨⟨s, hs, hlexeme⟩, hend⟩ := of_token? htoken
    rw [hs]
    exact .cons hlexeme hend (ih fun hmem => h (List.mem_cons_of_mem t hmem))
  | case5 => exact absurd List.mem_cons_self h

theorem Lexeme.ne_malformed {s : List Char} {t : Token} (h : Lexeme s t) : t ≠ .malformed := by
  cases h with
  | mark h => cases h <;> exact Token.noConfusion
  | word h => cases h <;> exact Token.noConfusion
  | _ => exact Token.noConfusion

theorem lexes_iff {cs : List Char} {ts : List Token} :
    Lexes cs ts ↔ tokens cs = ts ∧ .malformed ∉ ts := by
  constructor
  · intro h
    refine ⟨h.tokens_eq, ?_⟩
    induction h with
    | nil => exact List.not_mem_nil
    | blank _ _ ih => exact ih
    | cons h _ _ ih => exact List.not_mem_cons_of_ne_of_not_mem h.ne_malformed.symm ih
  · rintro ⟨rfl, h⟩
    exact lexes_tokens h

instance (cs : List Char) (ts : List Token) : Decidable (Lexes cs ts) := decidable_of_iff' _ lexes_iff

/-! ## Written texts -/

section

variable {rest : List Char} {ts : List Token}

theorem Lexes.mark {c : Char} {t : Token} (h : Mark c t) (hrest : Lexes rest ts) :
    Lexes (c :: rest) (t :: ts) :=
  .cons (.mark h) (fun x hx => by subst hx; cases h) hrest

/-- A string may be written as it is, if none of its characters has to be escaped. -/
theorem Lexes.plain {s : List Char} (h : ∀ c ∈ s, 0x20 ≤ c.toNat ∧ c ≠ '"' ∧ c ≠ '\\')
    (hrest : Lexes rest ts) : Lexes ('"' :: (s ++ '"' :: rest)) (.text (some s) :: ts) := by
  have hpieces : Pieces s (s.map .char) ∧ Stands (s.map .char) s := by
    induction s with
    | nil => exact ⟨.nil, .nil⟩
    | cons c s ih =>
      obtain ⟨hcontrol, hquote, hslash⟩ := h c List.mem_cons_self
      obtain ⟨hpieces, hstands⟩ := ih fun c hc => h c (List.mem_cons_of_mem _ hc)
      exact ⟨.char hcontrol hquote hslash hpieces, .char hstands⟩
  have hlexes : Lexes ('"' :: (s ++ ['"']) ++ rest) (.text (some s) :: ts) :=
    .cons (.text hpieces.1 hpieces.2) (fun _ hx => Token.noConfusion hx) hrest
  simpa using hlexes

theorem Lexes.natural {n : Nat} (hn : n < 2 ^ 64) (hend : EndsDigits rest) (hrest : Lexes rest ts) :
    Lexes (Nat.toDigits 10 n ++ rest) (.number (.natural n) :: ts) := by
  have hvalue : n = Nat.ofDigits 10 ((Nat.toDigits 10 n).map Text.digitValue).reverse :=
    (Text.decimalValue_toDigits n).symm.trans (Text.decimalValue_eq _)
  exact .cons (.natural (isWhole_toDigits n) hvalue hn) (fun _ _ => hend) hrest

end

end LongSuffix.Json
