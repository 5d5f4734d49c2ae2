import LongSuffix.Position

/-!
# Spans

A span runs from the position of a token's first character to the position just after its last. It may
be put together from any two positions, also with the end first; `Span.of` takes only those in order.
-/

namespace LongSuffix

structure Span where
  start : Position
  stop : Position
  deriving DecidableEq

namespace Span

/-- The span between two positions, unless the end comes first. -/
def of (start stop : Position) : Except PositionError Span :=
  if stop < start then .error (.invertedSpan start stop) else .ok ⟨start, stop⟩

def text (s : Span) : String := s!"{s.start.text}-{s.stop.text}"

def isSingleLine (s : Span) : Bool := s.start.line == s.stop.line

/-- The column just before the end, if the line of the end has one. -/
def lastColumn (s : Span) : Option Nat :=
  if 1 < s.stop.column then some (s.stop.column - 1) else none

/-- The position just before the end, if the line of the end has one. -/
def last (s : Span) : Option Position :=
  if h : 1 < s.stop.column then
    some ⟨s.stop.line, s.stop.column - 1, s.stop.line_pos, by omega⟩
  else none

theorem of_eq_ok_iff {start stop : Position} {s : Span} :
    of start stop = .ok s ↔ s = ⟨start, stop⟩ ∧ ¬ stop < start := by
  unfold of
  split
  · next h => simp [h]
  · next h => simp [h, eq_comm]

theorem last_eq_none_iff {s : Span} : s.last = none ↔ s.stop.column = 1 := by
  have := s.stop.column_pos
  simp only [last]
  split <;> simp <;> omega

end Span

end LongSuffix
