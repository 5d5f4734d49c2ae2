import LongSuffix.Tree.Basic

/-!
# Walking a tree

A cursor stands on a node and knows the way back: the siblings to the right, and the same for every
ancestor. Going to the first child, else to the next sibling, else to the next sibling of the
nearest ancestor that has one, visits the nodes of a tree.
-/

namespace LongSuffix

structure Cursor where
  focus : Tree
  /-- The siblings to the right. -/
  right : List Tree
  /-- The ancestors, nearest first, each with its siblings to the right. -/
  up : List (Tree × List Tree)

namespace Cursor

def ofTree (t : Tree) : Cursor := ⟨t, [], []⟩

def firstChild? (c : Cursor) : Option Cursor :=
  match c.focus.children with
  | [] => none
  | t :: rest => some ⟨t, rest, (c.focus, c.right) :: c.up⟩

def nextSibling? (c : Cursor) : Option Cursor :=
  match c.right with
  | [] => none
  | t :: rest => some ⟨t, rest, c.up⟩

def parent? (c : Cursor) : Option Cursor :=
  match c.up with
  | [] => none
  | (t, right) :: up => some ⟨t, right, up⟩

/-- The number of nodes after the ancestors. -/
def aheadAbove : List (Tree × List Tree) → Nat
  | [] => 0
  | (_, right) :: up => Tree.sizeAll right + aheadAbove up

/-- The number of nodes after the focus and everything below it. -/
def ahead (c : Cursor) : Nat := Tree.sizeAll c.right + aheadAbove c.up

/-- The number of nodes at, below or after the focus. -/
def remaining (c : Cursor) : Nat := c.focus.size + c.ahead

theorem up_length_of_parent {c parent : Cursor} (h : c.parent? = some parent) :
    parent.up.length < c.up.length := by
  unfold parent? at h
  split at h
  · simp at h
  · next hup => cases h; simp [hup]

/-- The next sibling, or the next sibling of the nearest ancestor that has one. -/
def onward? (c : Cursor) : Option Cursor :=
  match c.nextSibling? with
  | some next => some next
  | none =>
    match h : c.parent? with
    | some parent =>
      have := up_length_of_parent h
      parent.onward?
    | none => none
termination_by c.up.length

theorem remaining_firstChild {c next : Cursor} (h : c.firstChild? = some next) :
    next.remaining < c.remaining := by
  unfold firstChild? at h
  split at h
  · simp at h
  · next t rest hc =>
    cases h
    simp only [remaining, ahead, aheadAbove]
    rw [Tree.size_eq c.focus, hc]
    simp only [Tree.sizeAll]
    omega

theorem remaining_nextSibling {c next : Cursor} (h : c.nextSibling? = some next) :
    next.remaining = c.ahead := by
  unfold nextSibling? at h
  split at h
  · simp at h
  · next hr => cases h; simp [remaining, ahead, hr, Tree.sizeAll]; omega

theorem ahead_parent {c parent : Cursor} (hs : c.nextSibling? = none)
    (hp : c.parent? = some parent) : parent.ahead = c.ahead := by
  unfold parent? at hp
  split at hp
  · simp at hp
  · next hup =>
    cases hp
    unfold nextSibling? at hs
    split at hs
    · next hr => simp [ahead, aheadAbove, hup, hr, Tree.sizeAll]
    · simp at hs

theorem remaining_onward {c next : Cursor} (h : c.onward? = some next) :
    next.remaining = c.ahead := by
  fun_induction onward? c with
  | case1 c sibling hs => cases h; exact remaining_nextSibling hs
  | case2 c hs parent hp _ ih => rw [ih h, ahead_parent hs hp]
  | case3 => simp at h

theorem remaining_onward_lt {c next : Cursor} (h : c.onward? = some next) :
    next.remaining < c.remaining := by
  rw [remaining_onward h, remaining, Tree.size_eq]
  omega

/-- What `f` says of the node at the focus and of every node after it. -/
def walk {α : Type} (f : Tree → α) (c : Cursor) : List α :=
  f c.focus ::
    match h : c.firstChild? with
    | some child =>
      have := remaining_firstChild h
      child.walk f
    | none =>
      match h : c.onward? with
      | some next =>
        have := remaining_onward_lt h
        next.walk f
      | none => []
termination_by c.remaining

end Cursor

namespace Tree

/-- The kinds of all nodes as a cursor meets them: what a structure is compared by. -/
def kinds (t : Tree) : List String := (Cursor.ofTree t).walk Tree.kind

mutual

/-- The byte ranges that were found before, then those of the nodes that stand for errors at and
below a node. -/
def collectErrors (found : List (Nat × Nat)) : Tree → List (Nat × Nat)
  | node _ start stop flawed children =>
    collectErrorsAll (if flawed then found ++ [(start.byte, stop.byte)] else found) children

def collectErrorsAll (found : List (Nat × Nat)) : List Tree → List (Nat × Nat)
  | [] => found
  | t :: rest => collectErrorsAll (t.collectErrors found) rest

end

/-- The byte ranges of the nodes that stand for errors. -/
def errors (t : Tree) : List (Nat × Nat) := t.collectErrors []

end Tree

end LongSuffix
