import LongSuffix.Text.Blank
import LongSuffix.Text.Numeral

/-!
# Positions

A position names a character of a text by its line and its column, both counted from one; columns
count characters. Positions are ordered by line, then by column. A set of positions is kept as a
strictly increasing list.
-/

namespace LongSuffix

structure Position where
  line : Nat
  column : Nat
  line_pos : 0 < line := by decide
  column_pos : 0 < column := by decide
  deriving DecidableEq

namespace Position

def text (p : Position) : String := s!"{p.line}:{p.column}"

/-- The line counted from zero. -/
def lineIndex (p : Position) : Nat := p.line - 1

/-- The column counted from zero. -/
def columnIndex (p : Position) : Nat := p.column - 1

@[simp] theorem lineIndex_add_one (p : Position) : p.lineIndex + 1 = p.line := by
  have := p.line_pos; simp only [lineIndex]; omega

@[simp] theorem columnIndex_add_one (p : Position) : p.columnIndex + 1 = p.column := by
  have := p.column_pos; simp only [columnIndex]; omega

/-- Line first, then column. -/
def Before (p q : Position) : Prop := p.line < q.line ∨ p.line = q.line ∧ p.column < q.column

instance : LT Position := ⟨Before⟩

theorem lt_def {p q : Position} :
    p < q ↔ p.line < q.line ∨ p.line = q.line ∧ p.column < q.column := Iff.rfl

instance (p q : Position) : Decidable (p < q) :=
  inferInstanceAs (Decidable (p.line < q.line ∨ p.line = q.line ∧ p.column < q.column))

theorem ext_iff' {p q : Position} : p = q ↔ p.line = q.line ∧ p.column = q.column := by
  cases p; cases q; simp

theorem lt_irrefl (p : Position) : ¬ p < p := by
  rw [lt_def]; omega

theorem lt_trans {p q r : Position} (h : p < q) (h' : q < r) : p < r := by
  rw [lt_def] at *; omega

theorem lt_trichotomy (p q : Position) : p < q ∨ p = q ∨ q < p := by
  rw [lt_def, lt_def, ext_iff']; omega

end Position

/-- Why two numbers or a text are no position, or two positions no span. -/
inductive PositionError where
  | lineNotPositive (line : Nat)
  | columnNotPositive (column : Nat)
  | malformed (input : String)
  | invertedSpan (start stop : Position)
  deriving DecidableEq

def PositionError.message : PositionError → String
  | lineNotPositive n => s!"line number must be positive, got {n}"
  | columnNotPositive n => s!"column number must be positive, got {n}"
  | malformed input => s!"invalid position '{input}': expected LINE:COLUMN"
  | invertedSpan start stop => s!"span end {stop.text} precedes span start {start.text}"

namespace Position

/-- The position at a line and a column, if both are positive. The line is looked at first. -/
def of (line column : Nat) : Except PositionError Position :=
  if hl : 0 < line then
    if hc : 0 < column then .ok ⟨line, column, hl, hc⟩
    else .error (.columnNotPositive column)
  else .error (.lineNotPositive line)

@[simp] theorem of_line_column (p : Position) : of p.line p.column = .ok p := by
  simp [of, p.line_pos, p.column_pos]

/-- The text before and after the first occurrence of `sep`. -/
def splitFirst (sep : Char) : List Char → Option (List Char × List Char)
  | [] => none
  | c :: rest =>
    if c = sep then some ([], rest)
    else (splitFirst sep rest).map fun (before, after) => (c :: before, after)

/-- The two numerals of `LINE:COLUMN`, with white space allowed around each of them. -/
def readPair (s : List Char) : Option (Nat × Nat) := do
  let (line, column) ← splitFirst ':' (Text.trim s)
  let line ← Text.readWord (Text.trim line)
  let column ← Text.readWord (Text.trim column)
  return (line, column)

/-- Reads a position from `LINE:COLUMN`. -/
def parse (s : String) : Except PositionError Position :=
  match readPair s.toList with
  | some (line, column) => of line column
  | none => .error (.malformed s)

end Position

/-- A finite set of positions, listed in increasing order. -/
structure PositionSet where
  toList : List Position
  sorted : toList.Pairwise (· < ·)

namespace PositionSet

def empty : PositionSet := ⟨[], .nil⟩

def isEmpty (s : PositionSet) : Bool := s.toList.isEmpty

def size (s : PositionSet) : Nat := s.toList.length

/-- Puts a position into its place in an increasing list; one that is there already stays. -/
def insertSorted (p : Position) : List Position → List Position
  | [] => [p]
  | q :: rest => if p < q then p :: q :: rest else if p = q then q :: rest else q :: insertSorted p rest

theorem mem_insertSorted {p q : Position} {l : List Position} :
    q ∈ insertSorted p l ↔ q = p ∨ q ∈ l := by
  induction l with
  | nil => simp [insertSorted]
  | cons r rest ih =>
    simp only [insertSorted]
    split
    · simp
    · split
      · next h => subst h; simp
      · simp only [List.mem_cons, ih]
        constructor
        · rintro (h | h | h) <;> simp [h]
        · rintro (h | h | h) <;> simp [h]

theorem insertSorted_sorted {p : Position} {l : List Position} (h : l.Pairwise (· < ·)) :
    (insertSorted p l).Pairwise (· < ·) := by
  induction l with
  | nil => simp [insertSorted]
  | cons q rest ih =>
    rw [List.pairwise_cons] at h
    simp only [insertSorted]
    split
    · next hpq =>
      refine List.pairwise_cons.2 ⟨fun r hr => ?_, List.pairwise_cons.2 h⟩
      rcases List.mem_cons.1 hr with rfl | hr
      · exact hpq
      · exact Position.lt_trans hpq (h.1 r hr)
    · split
      · exact List.pairwise_cons.2 h
      · next hpq hne =>
        refine List.pairwise_cons.2 ⟨fun r hr => ?_, ih h.2⟩
        rcases mem_insertSorted.1 hr with rfl | hr
        · rcases Position.lt_trichotomy r q with h' | h' | h'
          · exact absurd h' hpq
          · exact absurd h' hne
          · exact h'
        · exact h.1 r hr

def insert (s : PositionSet) (p : Position) : PositionSet :=
  ⟨insertSorted p s.toList, insertSorted_sorted s.sorted⟩

def ofList (l : List Position) : PositionSet := l.foldl insert empty

instance : Membership Position PositionSet := ⟨fun s p => p ∈ s.toList⟩

theorem mem_def {p : Position} {s : PositionSet} : p ∈ s ↔ p ∈ s.toList := Iff.rfl

@[simp] theorem mem_insert {p q : Position} {s : PositionSet} :
    q ∈ s.insert p ↔ q = p ∨ q ∈ s := mem_insertSorted

theorem mem_foldl_insert {q : Position} {l : List Position} {s : PositionSet} :
    q ∈ l.foldl insert s ↔ q ∈ l ∨ q ∈ s := by
  induction l generalizing s with
  | nil => simp
  | cons p rest ih =>
    rw [List.foldl_cons, ih, mem_insert, List.mem_cons]
    constructor
    · rintro (h | h | h) <;> simp [h]
    · rintro ((h | h) | h) <;> simp [h]

@[simp] theorem mem_ofList {q : Position} {l : List Position} : q ∈ ofList l ↔ q ∈ l := by
  simp only [ofList, mem_foldl_insert, or_iff_left_iff_imp]
  intro h; cases h

end PositionSet

end LongSuffix
