import LongSuffix.Json.Token
import LongSuffix.Proofs.PositionText

/-!
# Numbers of JSON

A number has digits, a fraction and an exponent (`NumberText.Spells`). Reading finds the number at the
front of a text, where nothing follows that would go on it (`number?_append`), and what it finds is
written as a number (`of_number?`). The natural numbers are those of 64 bits that are written with
digits alone (`NumberText.value_eq_natural_iff`).
-/

namespace LongSuffix.Json

/-! ## What a number is written as -/

def IsDigits (ds : List Char) : Prop := ds ≠ [] ∧ ∀ c ∈ ds, isDigit c = true

/-- The digits in front of the point. No others follow a zero at the front. -/
def IsWhole (ds : List Char) : Prop := IsDigits ds ∧ (ds.head? = some '0' → ds.length = 1)

inductive FractionText : List Char → Option (List Char) → Prop where
  | none : FractionText [] none
  | some {ds : List Char} (h : IsDigits ds) : FractionText ('.' :: ds) (some ds)

/-- A sign, and whether it makes a number negative. -/
inductive SignText : List Char → Bool → Prop where
  | none : SignText [] false
  | plus : SignText ['+'] false
  | minus : SignText ['-'] true

inductive ExponentText : List Char → Option Int → Prop where
  | none : ExponentText [] none
  | some {e : Char} {sign ds : List Char} {negative : Bool} (he : e = 'e' ∨ e = 'E')
    (hsign : SignText sign negative) (h : IsDigits ds) :
    ExponentText (e :: (sign ++ ds))
      (some (if negative then -(Text.decimalValue ds : Int) else Text.decimalValue ds))

/-- A number is written with these parts. -/
def NumberText.Spells (t : NumberText) (s : List Char) : Prop :=
  ∃ fraction exponent, s = (if t.negative then ['-'] else []) ++ (t.whole ++ (fraction ++ exponent)) ∧
    IsWhole t.whole ∧ FractionText fraction t.fraction ∧ ExponentText exponent t.exponent

/-- No digit is at the front, so that a row of digits ends there. -/
def EndsDigits (s : List Char) : Prop := ∀ c, s.head? = some c → isDigit c = false

/-- Nor is a point or an exponent, so that a number may end there. -/
def EndsNumber (s : List Char) : Prop :=
  ∀ c, s.head? = some c → isDigit c = false ∧ c ≠ '.' ∧ c ≠ 'e' ∧ c ≠ 'E'

section

variable {cs ds rest : List Char}

theorem digits?_append (h : IsDigits ds) (hrest : EndsDigits rest) :
    digits? (ds ++ rest) = some (ds, rest) := by
  have hstop : rest.takeWhile isDigit = [] := by
    cases rest with
    | nil => rfl
    | cons c rest => simp [hrest c rfl]
  obtain ⟨c, ds, rfl⟩ := List.exists_cons_of_ne_nil h.1
  rw [digits?, List.takeWhile_append_of_pos h.2, hstop, List.append_nil]
  exact congrArg (fun after => some (c :: ds, after)) (List.drop_left)

theorem of_digits? (h : digits? cs = some (ds, rest)) :
    cs = ds ++ rest ∧ IsDigits ds ∧ EndsDigits rest := by
  unfold digits? at h
  split at h
  · cases h
  · next hne =>
    cases h
    have hdrop : cs.drop (cs.takeWhile isDigit).length = cs.dropWhile isDigit := by
      conv_lhs => arg 2; rw [← List.takeWhile_append_dropWhile (p := isDigit) (l := cs)]
      exact List.drop_left
    rw [hdrop]
    exact ⟨List.takeWhile_append_dropWhile.symm, ⟨hne, fun c => List.mem_takeWhile_imp⟩,
      fun c => Text.head?_dropWhile⟩

theorem whole?_append (h : IsWhole ds) (hrest : EndsDigits rest) :
    whole? (ds ++ rest) = some (ds, rest) := by
  have hlead : ¬ (ds.head? = some '0' ∧ 1 < ds.length) := fun ⟨hzero, hlong⟩ => by
    have := h.2 hzero
    omega
  rw [whole?, digits?_append h.1 hrest]
  exact if_neg hlead

theorem of_whole? (h : whole? cs = some (ds, rest)) :
    cs = ds ++ rest ∧ IsWhole ds ∧ EndsDigits rest := by
  obtain ⟨⟨ds', rest'⟩, hdigits, h⟩ := Option.bind_eq_some_iff.1 h
  obtain ⟨hcs, hds, hrest⟩ := of_digits? hdigits
  dsimp only at h
  split at h
  · cases h
  · next hlead =>
    cases h
    refine ⟨hcs, ⟨hds, fun hzero => ?_⟩, hrest⟩
    have := List.length_pos_of_ne_nil hds.1
    have : ¬ 1 < ds.length := fun hlong => hlead ⟨hzero, hlong⟩
    omega

theorem fraction?_append {text : List Char} {f : Option (List Char)} (h : FractionText text f)
    (hrest : ∀ c, rest.head? = some c → isDigit c = false ∧ c ≠ '.') :
    fraction? (text ++ rest) = some (f, rest) := by
  cases h with
  | none =>
    unfold fraction?
    split
    · next heq => exact absurd rfl (hrest '.' (by rw [List.nil_append] at heq; rw [heq]; rfl)).2
    · rfl
  | some h =>
    rw [List.cons_append, fraction?, digits?_append h fun c hc => (hrest c hc).1]
    rfl

theorem of_fraction? {f : Option (List Char)} (h : fraction? cs = some (f, rest))
    (hcs : EndsDigits cs) : (∃ text, cs = text ++ rest ∧ FractionText text f) ∧ EndsDigits rest := by
  unfold fraction? at h
  split at h
  · next after =>
    obtain ⟨⟨ds, rest'⟩, hdigits, heq⟩ := Option.map_eq_some_iff.1 h
    obtain ⟨hafter, hds, hrest⟩ := of_digits? hdigits
    cases heq
    exact ⟨⟨'.' :: ds, by rw [hafter, List.cons_append], .some hds⟩, hrest⟩
  · cases h
    exact ⟨⟨[], rfl, .none⟩, hcs⟩

theorem sign_append {s : List Char} {negative : Bool} (hsign : SignText s negative)
    (h : IsDigits ds) : sign (s ++ (ds ++ rest)) = (negative, ds ++ rest) := by
  cases hsign with
  | plus => rfl
  | minus => rfl
  | none =>
    obtain ⟨c, ds, rfl⟩ := List.exists_cons_of_ne_nil h.1
    have hc := h.2 c List.mem_cons_self
    rw [List.nil_append, List.cons_append]
    unfold sign
    split
    · next heq => cases heq; exact absurd hc (by decide)
    · next heq => cases heq; exact absurd hc (by decide)
    · rfl

theorem signText_sign (cs : List Char) : ∃ s, cs = s ++ (sign cs).2 ∧ SignText s (sign cs).1 := by
  unfold sign
  split
  · exact ⟨['-'], rfl, .minus⟩
  · exact ⟨['+'], rfl, .plus⟩
  · exact ⟨[], rfl, .none⟩

theorem exponent?_append {text : List Char} {e : Option Int} (h : ExponentText text e)
    (hrest : EndsNumber rest) : exponent? (text ++ rest) = some (e, rest) := by
  cases h with
  | none =>
    cases rest with
    | nil => rfl
    | cons c rest =>
      obtain ⟨-, -, he, hE⟩ := hrest c rfl
      simp [exponent?, he, hE]
  | @some e s ds negative he hsign h =>
    have hmark : (e == 'e' || e == 'E') = true := by simpa using he
    rw [List.cons_append, List.append_assoc, exponent?, if_pos hmark, sign_append hsign h,
      digits?_append h fun c hc => (hrest c hc).1]
    rfl

theorem of_exponent? {e : Option Int} (h : exponent? cs = some (e, rest)) (hcs : EndsDigits cs) :
    (∃ text, cs = text ++ rest ∧ ExponentText text e) ∧ EndsDigits rest := by
  unfold exponent? at h
  split at h
  · next c after =>
    split at h
    · next hmark =>
      obtain ⟨⟨ds, rest'⟩, hdigits, heq⟩ := Option.map_eq_some_iff.1 h
      obtain ⟨s, hafter, hsign⟩ := signText_sign after
      obtain ⟨hsplit, hds, hrest⟩ := of_digits? hdigits
      cases heq
      refine ⟨⟨c :: (s ++ ds), ?_, .some (by simpa using hmark) hsign hds⟩, hrest⟩
      rw [List.cons_append, List.append_assoc, ← hsplit, ← hafter]
    · cases h
      exact ⟨⟨[], rfl, .none⟩, hcs⟩
  · cases h
    exact ⟨⟨[], rfl, .none⟩, hcs⟩

theorem minus_append (negative : Bool) (h : IsDigits ds) :
    minus ((if negative then ['-'] else []) ++ (ds ++ rest)) = (negative, ds ++ rest) := by
  cases negative with
  | true => rfl
  | false =>
    obtain ⟨c, ds, rfl⟩ := List.exists_cons_of_ne_nil h.1
    have hc := h.2 c List.mem_cons_self
    show minus (c :: (ds ++ rest)) = _
    unfold minus
    split
    · next heq => cases heq; exact absurd hc (by decide)
    · rfl

theorem eq_minus (cs : List Char) :
    cs = (if (minus cs).1 then ['-'] else []) ++ (minus cs).2 := by
  unfold minus
  split
  · rfl
  · rfl

/-- What may come first after the digits in front of the point, and after the fraction. -/
theorem FractionText.head {text : List Char} {f : Option (List Char)} (h : FractionText text f)
    {c : Char} (hc : (text ++ rest).head? = Option.some c) :
    c = '.' ∨ rest.head? = Option.some c := by
  cases h with
  | none => exact .inr hc
  | some => cases hc; exact .inl rfl

theorem ExponentText.head {text : List Char} {e : Option Int} (h : ExponentText text e) {c : Char}
    (hc : (text ++ rest).head? = Option.some c) :
    c = 'e' ∨ c = 'E' ∨ rest.head? = Option.some c := by
  cases h with
  | none => exact .inr (.inr hc)
  | some he =>
    cases hc
    rcases he with he | he
    · exact .inl he
    · exact .inr (.inl he)

theorem number?_append {t : NumberText} {s : List Char} (h : t.Spells s) (hrest : EndsNumber rest) :
    number? (s ++ rest) = some (t.value, rest) := by
  obtain ⟨fraction, exponent, rfl, hwhole, hfraction, hexponent⟩ := h
  have hafter : ∀ c, (exponent ++ rest).head? = some c → isDigit c = false ∧ c ≠ '.' := by
    intro c hc
    rcases hexponent.head hc with rfl | rfl | hc
    · decide
    · decide
    · exact ⟨(hrest c hc).1, (hrest c hc).2.1⟩
  have hnext : ∀ c, (fraction ++ (exponent ++ rest)).head? = some c → isDigit c = false := by
    intro c hc
    rcases hfraction.head hc with rfl | hc
    · decide
    · exact (hafter c hc).1
  rw [List.append_assoc, List.append_assoc, List.append_assoc, number?,
    minus_append t.negative hwhole.1, whole?_append hwhole hnext]
  show (fraction? _).bind _ = _
  rw [fraction?_append hfraction hafter]
  show (exponent? _).bind _ = _
  rw [exponent?_append hexponent hrest]
  rfl

theorem of_number? {x : Number} (h : number? cs = some (x, rest)) :
    (∃ t s, cs = s ++ rest ∧ NumberText.Spells t s ∧ x = t.value) ∧ EndsDigits rest := by
  obtain ⟨⟨whole, rest₁⟩, hwhole?, h⟩ := Option.bind_eq_some_iff.1 h
  obtain ⟨⟨fraction, rest₂⟩, hfraction?, h⟩ := Option.bind_eq_some_iff.1 h
  obtain ⟨⟨exponent, rest₃⟩, hexponent?, h⟩ := Option.bind_eq_some_iff.1 h
  obtain ⟨hcs, hwhole, h₁⟩ := of_whole? hwhole?
  obtain ⟨⟨f, hf, hfraction⟩, h₂⟩ := of_fraction? hfraction? h₁
  obtain ⟨⟨e, he, hexponent⟩, h₃⟩ := of_exponent? hexponent? h₂
  cases h
  refine ⟨⟨_, _, ?_, ⟨f, e, rfl, hwhole, hfraction, hexponent⟩, rfl⟩, h₃⟩
  rw [List.append_assoc, List.append_assoc, List.append_assoc, ← he, ← hf, ← hcs]
  exact eq_minus cs

end

/-! ## Natural numbers -/

/-- The number that comes of `n`, if digits are written behind it. -/
def shiftIn (n : Nat) (ds : List Char) : Nat := ds.foldl (fun n c => 10 * n + Text.digitValue c) n

theorem le_shiftIn (n : Nat) (ds : List Char) : n ≤ shiftIn n ds := by
  induction ds generalizing n with
  | nil => exact Nat.le_refl n
  | cons c ds ih =>
    have := ih (10 * n + Text.digitValue c)
    exact Nat.le_trans (by omega) this

/-- All digits are taken up, if the number is one of 64 bits. -/
theorem takeUp_of_lt {n taken : Nat} {ds : List Char} (h : shiftIn n ds < Text.wordBound) :
    takeUp n taken ds = (shiftIn n ds, taken + ds.length) := by
  induction ds generalizing n taken with
  | nil => rfl
  | cons c ds ih =>
    have hnext : n * 10 + Text.digitValue c = 10 * n + Text.digitValue c := by omega
    have hlt := Nat.lt_of_le_of_lt (le_shiftIn (10 * n + Text.digitValue c) ds) h
    rw [takeUp, hnext, if_pos hlt, ih h, List.length_cons, Nat.add_right_comm, Nat.add_assoc]
    rfl

theorem takeUp_of_le {n taken : Nat} {ds : List Char} (hn : n < Text.wordBound)
    (h : Text.wordBound ≤ shiftIn n ds) : (takeUp n taken ds).2 < taken + ds.length := by
  induction ds generalizing n taken with
  | nil => exact absurd h (Nat.not_le.2 hn)
  | cons c ds ih =>
    have hnext : n * 10 + Text.digitValue c = 10 * n + Text.digitValue c := by omega
    rw [takeUp, hnext, List.length_cons]
    split
    · next hlt =>
      have : (takeUp _ (taken + 1) ds).2 < taken + 1 + ds.length := ih hlt h
      omega
    · exact Nat.lt_add_of_pos_right (Nat.succ_pos _)

/-- Digits are left over exactly where the number has more than 64 bits. -/
theorem dropped_eq_zero_iff (ds : List Char) :
    ds.length - (takeUp 0 0 ds).2 = 0 ↔ Text.decimalValue ds < 2 ^ 64 := by
  by_cases h : shiftIn 0 ds < Text.wordBound
  · rw [takeUp_of_lt h]
    exact iff_of_true (by simp) h
  · have : (takeUp 0 0 ds).2 < 0 + ds.length := takeUp_of_le (by decide) (Nat.not_lt.1 h)
    exact iff_of_false (by omega) h

/-- A number is natural, if it is one of 64 bits that is written without sign, point and exponent. -/
theorem NumberText.value_eq_natural_iff {t : NumberText} {n : Nat} : t.value = .natural n ↔
    (t.negative = false ∧ t.fraction = none ∧ t.exponent = none) ∧
      n = Text.decimalValue t.whole ∧ n < 2 ^ 64 := by
  have htaken : Text.decimalValue t.whole < 2 ^ 64 →
      (takeUp 0 0 t.whole).1 = Text.decimalValue t.whole := fun h =>
    congrArg Prod.fst (takeUp_of_lt h)
  simp only [value, dropped_eq_zero_iff, Option.isNone_iff_eq_none, Bool.not_eq_true']
  split
  · next h =>
    obtain ⟨⟨hbound, hfraction, hexponent⟩, hnegative⟩ := h
    rw [htaken hbound, Number.natural.injEq]
    exact ⟨fun hn => ⟨⟨hnegative, hfraction, hexponent⟩, hn.symm, hn ▸ hbound⟩, fun h => h.2.1.symm⟩
  · next h =>
    -- what is left are negative numbers and decimals
    refine iff_of_false (by split <;> exact Number.noConfusion) ?_
    rintro ⟨⟨hnegative, hfraction, hexponent⟩, rfl, hbound⟩
    exact h ⟨⟨hbound, hfraction, hexponent⟩, hnegative⟩

/-- The digits of a positive number start with no zero. -/
theorem head?_toDigits {n : Nat} (h : 0 < n) : (Nat.toDigits 10 n).head? ≠ some '0' := by
  induction n using Nat.strongRecOn with
  | ind n ih =>
    rw [Nat.toDigits_eq_if (by decide)]
    split
    · next hn =>
      have hdigit : ∀ n < 10, 0 < n → [n.digitChar].head? ≠ some '0' := by decide
      exact hdigit n hn h
    · rw [List.head?_append_of_ne_nil _ Nat.toDigits_ne_nil]
      exact ih (n / 10) (by omega) (by omega)

theorem isWhole_toDigits (n : Nat) : IsWhole (Nat.toDigits 10 n) := by
  refine ⟨⟨Nat.toDigits_ne_nil, fun c => Position.isDigit_of_mem_toDigits⟩, fun hhead => ?_⟩
  rcases Nat.eq_zero_or_pos n with rfl | hn
  · rfl
  · exact absurd hhead (head?_toDigits hn)

end LongSuffix.Json
