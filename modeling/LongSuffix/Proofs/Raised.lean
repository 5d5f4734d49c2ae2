import LongSuffix.Locate
import Mathlib.Data.List.Forall2

/-!
# Raised texts

A text is raised into another one if some of its letters `l` became `L` and nothing else happened
to it. `differences` counts the places where two texts differ. Along a chain of raised texts the
counts add up, because a letter that was raised stays as it is; and what the locators look at, the
words and digits around a letter, does not change.
-/

namespace LongSuffix

/-- A character that stayed as it was, or the suffix letter that was raised. -/
inductive Raised : Char → Char → Prop where
  | same (c : Char) : Raised c c
  | up : Raised 'l' 'L'

/-- The number of places where two texts of one length differ. -/
def differences (s t : List Char) : Nat := (s.zip t).countP fun p => p.1 ≠ p.2

/-! ## Lists related element by element -/

section

variable {α : Type} {R : α → α → Prop}

theorem forall₂_getElem? {s t : List α} (h : List.Forall₂ R s t) (i : Nat) :
    s[i]? = none ∧ t[i]? = none ∨ ∃ a b, s[i]? = some a ∧ t[i]? = some b ∧ R a b := by
  induction h generalizing i with
  | nil => exact .inl ⟨rfl, rfl⟩
  | cons hab _ ih =>
    cases i with
    | zero => exact .inr ⟨_, _, rfl, rfl, hab⟩
    | succ i => exact ih i

theorem forall₂_takeWhile {p : α → Bool} (hp : ∀ {a b}, R a b → p a = p b) {s t : List α}
    (h : List.Forall₂ R s t) : List.Forall₂ R (s.takeWhile p) (t.takeWhile p) := by
  induction h with
  | nil => exact .nil
  | @cons a b _ _ hab _ ih =>
    rw [List.takeWhile_cons, List.takeWhile_cons, ← hp hab]
    split
    · exact .cons hab ih
    · exact .nil

/-- Changing one element relates the lists if the old element is related to the new one. -/
theorem forall₂_modify (hr : ∀ a, R a a) {f : α → α} {l : List α} {i : Nat}
    (h : ∀ a, l[i]? = some a → R a (f a)) : List.Forall₂ R l (l.modify i f) := by
  induction l generalizing i with
  | nil => simp
  | cons a l ih =>
    cases i with
    | zero => exact .cons (h a rfl) (List.forall₂_same.2 fun b _ => hr b)
    | succ i => exact .cons (hr a) (ih h)

theorem forall₂_trans {s t u : List α} (h : List.Forall₂ R s t) (h' : List.Forall₂ R t u)
    (ht : ∀ {a b c}, R a b → R b c → R a c) : List.Forall₂ R s u := by
  induction h generalizing u with
  | nil => exact h'
  | cons hab _ ih =>
    obtain ⟨c, v, hbc, hv, rfl⟩ := List.forall₂_cons_left_iff.1 h'
    exact .cons (ht hab hbc) (ih hv)

/-- What is related to a list in two parts is in two parts as well. -/
theorem forall₂_append_left {s t u : List α} (h : List.Forall₂ R (s ++ t) u) :
    ∃ s' t', u = s' ++ t' ∧ List.Forall₂ R s s' ∧ List.Forall₂ R t t' := by
  have hs := List.forall₂_take s.length h
  have ht := List.forall₂_drop s.length h
  rw [List.take_left] at hs
  rw [List.drop_left] at ht
  exact ⟨_, _, (List.take_append_drop s.length u).symm, hs, ht⟩

end

/-! ## Characters -/

namespace Raised

theorem trans {a b c : Char} (h : Raised a b) (h' : Raised b c) : Raised a c := by
  cases h with
  | same => exact h'
  | up => cases h' with | same => exact .up

theorem eq_of_ne_upper {a b : Char} (h : Raised a b) (hb : b ≠ 'L') : a = b := by
  cases h with
  | same => rfl
  | up => exact absurd rfl hb

theorem eq_of_ne_lower {a b : Char} (h : Raised a b) (ha : a ≠ 'l') : a = b := by
  cases h with
  | same => rfl
  | up => exact absurd rfl ha

theorem isWordChar_eq {a b : Char} (h : Raised a b) : isWordChar a = isWordChar b := by
  cases h with
  | same => rfl
  | up => decide

theorem isDigit_eq {a b : Char} (h : Raised a b) : a.isDigit = b.isDigit := by
  cases h with
  | same => rfl
  | up => decide

theorem utf8Size_eq {a b : Char} (h : Raised a b) : a.utf8Size = b.utf8Size := by
  cases h with
  | same => rfl
  | up => decide

end Raised

/-! ## Texts -/

section

variable {s t u : List Char}

/-- Characters other than `L` were there before. -/
theorem mem_of_raised {c : Char} (h : List.Forall₂ Raised s t) (hc : c ≠ 'L') (hm : c ∈ t) :
    c ∈ s := by
  induction h with
  | nil => cases hm
  | cons hab _ ih =>
    rcases List.mem_cons.1 hm with rfl | hm
    · rw [hab.eq_of_ne_upper hc]
      exact List.mem_cons_self
    · exact List.mem_cons_of_mem _ (ih hm)

/-- A text without upper case letter `L` was not raised from another one. -/
theorem eq_of_raised_of_no_upper (h : List.Forall₂ Raised s t) (ht : 'L' ∉ t) : s = t := by
  induction h with
  | nil => rfl
  | cons hab _ ih =>
    rw [List.mem_cons, not_or] at ht
    rw [hab.eq_of_ne_upper (Ne.symm ht.1), ih ht.2]

/-- A text without lower case letter `l` is raised to itself only. -/
theorem eq_of_raised_of_no_lower (h : List.Forall₂ Raised s t) (hs : 'l' ∉ s) : s = t := by
  induction h with
  | nil => rfl
  | cons hab _ ih =>
    rw [List.mem_cons, not_or] at hs
    rw [hab.eq_of_ne_lower (Ne.symm hs.1), ih hs.2]

/-- A text with its only lower case letter `l` at the end is raised there or not at all. -/
theorem eq_of_raised_suffix (hs : 'l' ∉ s) (h : List.Forall₂ Raised (s ++ ['l']) t) :
    t = s ++ ['l'] ∨ t = s ++ ['L'] := by
  obtain ⟨stem, rest, rfl, hstem, hlast⟩ := forall₂_append_left h
  obtain ⟨c, _, hc, hnil, rfl⟩ := List.forall₂_cons_left_iff.1 hlast
  rw [← eq_of_raised_of_no_lower hstem hs, List.forall₂_nil_left_iff.1 hnil]
  cases hc with
  | same => exact .inl rfl
  | up => exact .inr rfl

theorem wordBefore_raised (h : List.Forall₂ Raised s t) (column : Nat) :
    List.Forall₂ Raised (wordBefore s column) (wordBefore t column) := by
  rw [wordBefore, wordBefore, List.forall₂_reverse_iff]
  apply forall₂_takeWhile fun h => h.isWordChar_eq
  rw [List.forall₂_reverse_iff]
  exact List.forall₂_take column h

/-- Raising letters makes no word a number and no number a word. -/
theorem endsNumber_raised (h : List.Forall₂ Raised s t) (column : Nat) :
    endsNumber s column = endsNumber t column := by
  unfold endsNumber
  have hw := wordBefore_raised h column
  cases hw' : wordBefore s column with
  | nil => rw [hw', List.forall₂_nil_left_iff] at hw; rw [hw]
  | cons a w =>
    rw [hw', List.forall₂_cons_left_iff] at hw
    obtain ⟨b, v, hab, -, hv⟩ := hw
    rw [hv]
    exact hab.isDigit_eq

theorem utf8ByteSize_raised (h : List.Forall₂ Raised s t) :
    (String.ofList s).utf8ByteSize = (String.ofList t).utf8ByteSize := by
  induction h with
  | nil => rfl
  | cons hab _ ih => simp [String.ofList_cons, ih, hab.utf8Size_eq]

/-! ## Differences -/

theorem differences_cons (a b : Char) (s t : List Char) :
    differences (a :: s) (b :: t) = (if a = b then 0 else 1) + differences s t := by
  by_cases h : a = b
  · simp [differences, h]
  · simp [differences, h]; omega

@[simp] theorem differences_self (s : List Char) : differences s s = 0 := by
  induction s with
  | nil => rfl
  | cons a s ih => rw [differences_cons, ih, if_pos rfl]

theorem differences_append {s' t' : List Char} (h : s.length = t.length) :
    differences (s ++ s') (t ++ t') = differences s t + differences s' t' := by
  rw [differences, List.zip_append h, List.countP_append]
  rfl

theorem differences_eq_zero (h : s.length = t.length) : differences s t = 0 ↔ s = t := by
  constructor
  · intro hd
    induction s generalizing t with
    | nil => exact (List.length_eq_zero_iff.1 h.symm).symm
    | cons a s ih =>
      cases t with
      | nil => simp at h
      | cons b t =>
        rw [differences_cons] at hd
        by_cases hab : a = b
        · rw [hab, ih (by simpa using h) (by omega)]
        · rw [if_neg hab] at hd; omega
  · rintro rfl
    exact differences_self s

/-- A letter is raised at most once, so no place is counted twice. -/
theorem differences_trans (h : List.Forall₂ Raised s t) (h' : List.Forall₂ Raised t u) :
    differences s u = differences s t + differences t u := by
  induction h generalizing u with
  | nil => rw [List.forall₂_nil_left_iff.1 h']; rfl
  | cons hab _ ih =>
    obtain ⟨c, v, hbc, hv, rfl⟩ := List.forall₂_cons_left_iff.1 h'
    simp only [differences_cons, ih hv]
    cases hab with
    | same => simp; omega
    | up =>
      cases hbc with
      | same => simp; omega

theorem differences_set {i : Nat} (h : s[i]? = some 'l') : differences s (s.set i 'L') = 1 := by
  induction s generalizing i with
  | nil => simp at h
  | cons a s ih =>
    cases i with
    | zero =>
      have ha : a = 'l' := by simpa using h
      subst ha
      simp [differences_cons]
    | succ i =>
      rw [List.set_cons_succ, differences_cons, ih (by simpa using h), if_pos rfl]

end

end LongSuffix
