/-!
# Patterns

A pattern says how many characters at the front of a text it takes, or that it does not match.
Repetition is greedy.
-/

namespace LongSuffix.Java

abbrev Pattern := List Char → Option Nat

namespace Pattern

/-- One character of a class. -/
def one (p : Char → Bool) : Pattern
  | c :: _ => if p c then some 1 else none
  | [] => none

def char (c : Char) : Pattern := one (· == c)

/-- One or more characters of a class. -/
def run (p : Char → Bool) : Pattern := fun cs =>
  let n := (cs.takeWhile p).length
  if n = 0 then none else some n

def seq (p q : Pattern) : Pattern := fun cs => do
  let m ← p cs
  let n ← q (cs.drop m)
  return m + n

def opt (p : Pattern) : Pattern := fun cs => some ((p cs).getD 0)

/-- The longer of two matches, the first if they are as long. -/
def longer (p q : Pattern) : Pattern := fun cs =>
  match p cs, q cs with
  | some m, some n => some (if m < n then n else m)
  | some m, none => some m
  | none, n => n

/-- As many matches one after the other as there are. A match of nothing ends the row. -/
def many (p : Pattern) (cs : List Char) : Option Nat :=
  match p cs with
  | none => some 0
  | some n =>
    if _ : 0 < n ∧ n ≤ cs.length then (many p (cs.drop n)).map (n + ·) else some 0
termination_by cs.length
decreasing_by simp; omega

end Pattern

end LongSuffix.Java
