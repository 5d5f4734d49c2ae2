/-!
# Edit scripts

A script turns one list into another by keeping, deleting and inserting runs of elements. The
shortest one is found by looking from both ends for the middle of a shortest path, and going on in
the two halves.
-/

namespace LongSuffix.Diff

inductive Tag where
  | keep
  | delete
  | insert
  deriving DecidableEq

/-- A run of elements with the same fate. -/
structure Step (α : Type) where
  tag : Tag
  items : List α

abbrev Script (α : Type) := List (Step α)

/-- The number of elements that two lists have in common at the front. -/
def commonPrefixLength {α : Type} [DecidableEq α] : List α → List α → Nat
  | a :: as, b :: bs => if a = b then commonPrefixLength as bs + 1 else 0
  | _, _ => 0

def commonSuffixLength {α : Type} [DecidableEq α] (as bs : List α) : Nat :=
  commonPrefixLength as.reverse bs.reverse

/-! ## The middle of a path -/

/-- How far paths have come on each diagonal. -/
structure Frontier where
  reach : Array Nat
  offset : Nat

namespace Frontier

def start (limit : Nat) : Frontier := ⟨Array.replicate (2 * limit + 3) 0, limit + 1⟩

def get (f : Frontier) (k : Int) : Nat := (f.reach[(k + f.offset).toNat]?).getD 0

def set (f : Frontier) (k : Int) (x : Nat) : Frontier :=
  { f with reach := f.reach.setIfInBounds (k + f.offset).toNat x }

/-- Where a path with `d` changes may start on a diagonal. -/
def entry (f : Frontier) (d k : Int) : Nat :=
  if k = -d ∨ (k ≠ d ∧ f.get (k - 1) < f.get (k + 1)) then f.get (k + 1) else f.get (k - 1) + 1

end Frontier

/-- The diagonals that paths with `d` changes end on, from the highest to the lowest. -/
def diagonals (d : Nat) : List Int := (List.range (d + 1)).map fun (i : Nat) => (d : Int) - 2 * i

section

variable {α : Type} [DecidableEq α] (old new : List α)

/-- The number of equal elements from a point on; none outside of the lists. -/
def run (x : Nat) (y : Int) : Nat :=
  if y < 0 then 0 else commonPrefixLength (old.drop x) (new.drop y.toNat)

/-- One round over the diagonals, from one end. It stops where the paths from the two ends meet,
with the point before the equal elements and the one after them. -/
def sweep (d : Nat) (other : Frontier) (meets : Int → Bool) : List Int → Frontier →
    Frontier × Option ((Nat × Int) × (Nat × Int))
  | [], f => (f, none)
  | k :: rest, f =>
    let x := f.entry d k
    let y := x - k
    let n := run old new x y
    let f' := f.set k (x + n)
    let delta : Int := old.length - new.length
    if meets k && decide (old.length ≤ x + n + other.get (delta - k)) then
      (f', some ((x, y), (x + n, y + n)))
    else sweep d other meets rest f'

/-- Looks for the middle with more and more changes. -/
def search (d : Nat) (forward backward : Frontier) : (fuel : Nat) → Option (Nat × Nat)
  | 0 => none
  | fuel + 1 =>
    let delta : Int := old.length - new.length
    let odd := delta % 2 ≠ 0
    let near (k bound : Int) : Bool := decide ((k - delta).natAbs ≤ bound)
    match sweep old new d backward (fun k => odd && near k (d - 1)) (diagonals d) forward with
    | (_, some ((x, y), _)) => some (x, y.toNat)
    | (forward, none) =>
      match sweep old.reverse new.reverse d forward (fun k => !odd && near k d) (diagonals d)
          backward with
      | (_, some (_, (x, y))) => some (old.length - x, new.length - y.toNat)
      | (backward, none) => search (d + 1) forward backward fuel

/-- A point in the middle of a shortest path, not at its ends. -/
def middle : Option (Nat × Nat) :=
  let limit := (old.length + new.length + 1) / 2 + 1
  search old new 0 (.start limit) (.start limit) limit

end

/-! ## Scripts -/

/-- A shortest script. What is equal at the ends is kept, and the rest is cut in the middle. -/
def script {α : Type} [DecidableEq α] (old new : List α) : (fuel : Nat) → Script α
  | 0 => [⟨.delete, old⟩, ⟨.insert, new⟩]
  | fuel + 1 =>
    let front := commonPrefixLength old new
    let old' := old.drop front
    let new' := new.drop front
    let back := commonSuffixLength old' new'
    let left := old'.take (old'.length - back)
    let right := new'.take (new'.length - back)
    let inner : Script α :=
      if left.isEmpty ∧ right.isEmpty then []
      else if right.isEmpty then [⟨.delete, left⟩]
      else if left.isEmpty then [⟨.insert, right⟩]
      else
        match middle left right with
        | some (x, y) =>
          script (left.take x) (right.take y) fuel ++ script (left.drop x) (right.drop y) fuel
        | none => [⟨.delete, left⟩, ⟨.insert, right⟩]
    let keep (items : List α) : Script α := if items.isEmpty then [] else [⟨.keep, items⟩]
    keep (old.take front) ++ inner ++ keep (old'.drop (old'.length - back))

end LongSuffix.Diff
