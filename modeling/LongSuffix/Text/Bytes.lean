/-!
# Bytes and characters

A character takes up one to four bytes. A text can be cut at a byte offset only where one of its
characters starts or where it ends, and these offsets are counted along the text.
-/

namespace LongSuffix

def byteLength : List Char → Nat
  | [] => 0
  | c :: s => c.utf8Size + byteLength s

/-- The number of characters that take up the first `n` bytes of a text, if a character ends
there. -/
def charsInBytes : List Char → Nat → Option Nat
  | [], n => if n = 0 then some 0 else none
  | c :: rest, n =>
    if n = 0 then some 0
    else if c.utf8Size ≤ n then (charsInBytes rest (n - c.utf8Size)).map (· + 1)
    else none

/-- The text between two byte offsets, if both are on character boundaries. -/
def sliceBytes (cs : List Char) (start stop : Nat) : Option (List Char) := do
  let m ← charsInBytes cs start
  let n ← charsInBytes (cs.drop m) (stop - start)
  return (cs.drop m).take n

/-- A text in three parts. -/
structure Cut where
  before : List Char
  inside : List Char
  after : List Char

/-- The text cut at two byte offsets, if both are on character boundaries. -/
def cutBytes (cs : List Char) (start stop : Nat) : Option Cut := do
  let before ← sliceBytes cs 0 start
  let inside ← sliceBytes cs start stop
  let after ← sliceBytes cs stop (byteLength cs)
  return ⟨before, inside, after⟩

/-- The byte offsets at which the characters of a text start, and the one at which it ends, where
the text itself starts at `n`. -/
def offsetsFrom (n : Nat) : List Char → List Nat
  | [] => [n]
  | c :: rest => n :: offsetsFrom (n + c.utf8Size) rest

/-- The byte offsets of a range of characters, if the text has the range. The offsets are gone
through once: the end is looked for in what is left behind the start. -/
def byteRange? (cs : List Char) (start stop : Nat) : Option (Nat × Nat) :=
  if stop < start then none
  else
    match (offsetsFrom 0 cs).drop start with
    | [] => none
    | first :: rest =>
      if stop = start then some (first, first)
      else (rest[stop - start - 1]?).map fun last => (first, last)

/-! ## Lengths and slices -/

@[simp] theorem byteLength_nil : byteLength [] = 0 := rfl

@[simp] theorem byteLength_cons (c : Char) (s : List Char) :
    byteLength (c :: s) = c.utf8Size + byteLength s := rfl

@[simp] theorem byteLength_append (s t : List Char) :
    byteLength (s ++ t) = byteLength s + byteLength t := by
  induction s with
  | nil => exact (Nat.zero_add _).symm
  | cons c s ih => rw [List.cons_append, byteLength_cons, byteLength_cons, ih, Nat.add_assoc]

theorem charsInBytes_append (s t : List Char) :
    charsInBytes (s ++ t) (byteLength s) = some s.length := by
  induction s with
  | nil => cases t <;> rfl
  | cons c s ih =>
    have := c.utf8Size_pos
    rw [List.cons_append, charsInBytes, byteLength_cons, if_neg (by omega), if_pos (by omega),
      Nat.add_sub_cancel_left, ih]
    rfl

theorem sliceBytes_append (s t u : List Char) :
    sliceBytes (s ++ (t ++ u)) (byteLength s) (byteLength (s ++ t)) = some t := by
  simp only [sliceBytes, charsInBytes_append, Option.bind_eq_bind, Option.bind_some,
    List.drop_left, byteLength_append, Nat.add_sub_cancel_left, Option.pure_def, List.take_left]

theorem cutBytes_append (s t u : List Char) :
    cutBytes (s ++ (t ++ u)) (byteLength s) (byteLength (s ++ t)) = some ⟨s, t, u⟩ := by
  have hbefore : sliceBytes (s ++ (t ++ u)) 0 (byteLength s) = some s :=
    sliceBytes_append [] s (t ++ u)
  have hafter : sliceBytes (s ++ (t ++ u)) (byteLength (s ++ t)) (byteLength (s ++ (t ++ u))) =
      some u := by
    have := sliceBytes_append (s ++ t) u []
    rwa [List.append_nil, List.append_assoc] at this
  simp only [cutBytes, hbefore, sliceBytes_append, hafter, Option.bind_eq_bind, Option.bind_some,
    Option.pure_def]

/-! ## Ranges of characters -/

theorem getElem?_offsetsFrom (n : Nat) (s : List Char) (k : Nat) :
    (offsetsFrom n s)[k]? = if k ≤ s.length then some (n + byteLength (s.take k)) else none := by
  induction s generalizing n k with
  | nil => cases k <;> simp [offsetsFrom]
  | cons c s ih =>
    cases k with
    | zero => simp [offsetsFrom]
    | succ k => simp [offsetsFrom, ih, Nat.add_assoc]

/-- The offsets of a range are the lengths of what stands before it and of what stands before its
end. -/
theorem byteRange?_eq (s : List Char) (start stop : Nat) :
    byteRange? s start stop =
      if stop < start ∨ s.length < stop then none
      else some (byteLength (s.take start), byteLength (s.take stop)) := by
  unfold byteRange?
  by_cases hlt : stop < start
  · rw [if_pos hlt, if_pos (.inl hlt)]
  rw [if_neg hlt]
  cases hdrop : (offsetsFrom 0 s).drop start with
  | nil =>
    have hnone : (offsetsFrom 0 s)[start]? = none := by rw [← List.head?_drop, hdrop]; rfl
    rw [getElem?_offsetsFrom] at hnone
    split at hnone
    · cases hnone
    · rw [if_pos (.inr (by omega))]
  | cons first rest =>
    have hfirst : (offsetsFrom 0 s)[start]? = some first := by rw [← List.head?_drop, hdrop]; rfl
    have hrest (k : Nat) : rest[k]? = (offsetsFrom 0 s)[start + (k + 1)]? := by
      rw [← List.getElem?_drop, hdrop]; rfl
    rw [getElem?_offsetsFrom] at hfirst
    split at hfirst
    · next hstart =>
      simp only [Nat.zero_add, Option.some.injEq] at hfirst
      subst hfirst
      by_cases heq : stop = start
      · subst heq
        simp [hstart]
      · have hindex : start + (stop - start - 1 + 1) = stop := by omega
        simp only [if_neg heq, hrest, hindex, getElem?_offsetsFrom, Nat.zero_add]
        by_cases hstop : stop ≤ s.length
        · rw [if_pos hstop, if_neg (by omega)]; rfl
        · rw [if_neg hstop, if_pos (by omega)]; rfl
    · cases hfirst

theorem take_append_slice {α : Type} (l : List α) {i j : Nat} (h : i ≤ j) :
    l.take i ++ (l.take j).drop i = l.take j := by
  have := List.take_append_drop i (l.take j)
  rwa [List.take_take, Nat.min_eq_left h] at this

theorem take_append_slice_append_drop {α : Type} (l : List α) {i j : Nat} (h : i ≤ j) :
    l.take i ++ ((l.take j).drop i ++ l.drop j) = l := by
  rw [← List.append_assoc, take_append_slice l h, List.take_append_drop]

theorem cutBytes_take_drop {s : List Char} {start stop : Nat} (h : start ≤ stop) :
    cutBytes s (byteLength (s.take start)) (byteLength (s.take stop)) =
      some ⟨s.take start, (s.take stop).drop start, s.drop stop⟩ := by
  have hcut := cutBytes_append (s.take start) ((s.take stop).drop start) (s.drop stop)
  rwa [take_append_slice_append_drop s h, take_append_slice s h] at hcut

theorem isSome_cutBytes {s : List Char} {start stop : Nat} {r : Nat × Nat}
    (h : byteRange? s start stop = some r) : (cutBytes s r.1 r.2).isSome := by
  rw [byteRange?_eq] at h
  split at h
  · cases h
  · cases h
    rw [cutBytes_take_drop (by omega)]
    rfl

end LongSuffix
