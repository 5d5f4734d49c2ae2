/-!
# Sets of code points

A character property is kept as a list of closed code point ranges, in increasing order.
-/

namespace LongSuffix.Text

/-- Closed ranges of code points, lowest first. -/
abbrev CodePoints := List (Nat × Nat)

def CodePoints.has (set : CodePoints) (c : Char) : Bool :=
  set.any fun (lo, hi) => lo ≤ c.toNat && c.toNat ≤ hi

theorem CodePoints.has_iff {set : CodePoints} {c : Char} :
    set.has c = true ↔ ∃ r ∈ set, r.1 ≤ c.toNat ∧ c.toNat ≤ r.2 := by
  simp [has]

end LongSuffix.Text
