import LongSuffix.Tree.Cursor
import LongSuffix.Tree.Literals

/-!
# Comparing structures

Two trees have the same structure if their nodes have the same kinds in the same order. A change
of a source text is accepted if it keeps the structure and brings in no new error.
-/

namespace LongSuffix

/-- The index and the two values where two lists differ first. -/
def firstDifference {α : Type} [DecidableEq α] : List α → List α → Option (Nat × α × α)
  | a :: as, b :: bs =>
    if a = b then (firstDifference as bs).map fun (i, x, y) => (i + 1, x, y) else some (0, a, b)
  | _, _ => none

/-- What keeps the second tree from standing for the first. -/
def Tree.compare (before after : Tree) : Except SyntaxFault Unit :=
  let kinds := before.kinds
  let kinds' := after.kinds
  if kinds.length ≠ kinds'.length then .error (.structureChanged kinds.length kinds'.length)
  else
    match firstDifference kinds kinds' with
    | some (i, kind, kind') => .error (.nodeKindChanged i kind kind')
    | none =>
      match after.errors.filter (!before.errors.contains ·) with
      | [] => .ok ()
      | [(start, stop)] => .error (.syntaxError start stop)
      | many => .error (.multipleSyntaxErrors many.length)

/-- What is asked of the syntax of source texts: their integer literals, and whether one text may
stand for another. -/
structure Analyzer where
  literals : String → Except SyntaxFault (List Literal)
  check : (before after : String) → Except SyntaxFault Unit

/-- The analyzer that a parser gives. -/
def Analyzer.ofParser (parse : String → Except SyntaxFault Tree) : Analyzer where
  literals source := do (← parse source).literals source
  check before after := do (← parse before).compare (← parse after)

end LongSuffix
