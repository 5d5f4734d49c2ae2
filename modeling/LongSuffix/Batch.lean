import LongSuffix.Locate

/-!
# Batches

All positions of a set are tried on one document, from the top down. A position that cannot be
fixed does not stop the others: it gets its own outcome. Only an empty set is refused.
-/

namespace LongSuffix

/-- What came of trying to fix one position. -/
inductive Attempt where
  | applied
  | alreadyApplied
  /-- The text at the token's place is not the token's. -/
  | stale (e : EditError)
  | outOfBounds (e : AddressError)
  | noMatch (found : Char)
  | unsupported (reason : Unsupported)
  deriving DecidableEq

/-- What is reported for one position. -/
inductive Status where
  | fixed
  | outOfBounds (e : AddressError)
  | noMatch (found : Option Char)
  | unsupported (reason : Unsupported)
  deriving DecidableEq

def Status.message : Status → String
  | fixed => "fixed"
  | outOfBounds e => s!"out of bounds ({e.message})"
  | noMatch (some c) => s!"no match (found {Text.quotedChar c})"
  | noMatch none => "no match"
  | unsupported reason => s!"unsupported ({reason.message})"

def Attempt.status : Attempt → Status
  | applied => .fixed
  | alreadyApplied => .noMatch none
  | stale _ => .noMatch none
  | outOfBounds e => .outOfBounds e
  | noMatch c => .noMatch (some c)
  | unsupported reason => .unsupported reason

structure Outcome where
  position : Position
  attempt : Attempt
  deriving DecidableEq

namespace Outcome

def status (o : Outcome) : Status := o.attempt.status

def isFixed (o : Outcome) : Bool := o.attempt == .applied

end Outcome

/-- The outcomes of a batch, one for each position, in order. -/
structure FixReport where
  outcomes : List Outcome
  deriving DecidableEq

namespace FixReport

def fixedCount (r : FixReport) : Nat := r.outcomes.countP Outcome.isFixed

/-- Whether something was fixed. -/
def changed (r : FixReport) : Bool := 0 < r.fixedCount

def skipped (r : FixReport) : List Outcome := r.outcomes.filter (!·.isFixed)

end FixReport

namespace Locator

/-- Tries one position on a document. -/
def attempt (loc : Locator) (d : Document) (p : Position) : Attempt × Document :=
  match loc.locate d p with
  | .outOfBounds e => (.outOfBounds e, d)
  | .noMatch found => (.noMatch found, d)
  | .unsupported reason => (.unsupported reason, d)
  | .edit edit =>
    match edit.apply d with
    | .ok (.applied _ _, d') => (.applied, d')
    | .ok (.alreadyApplied _, d') => (.alreadyApplied, d')
    | .error e => (.stale e, d)

/-- Tries the positions one after the other. -/
def attemptAll (loc : Locator) (d : Document) : List Position → List Outcome × Document
  | [] => ([], d)
  | p :: rest =>
    let (attempt, d') := loc.attempt d p
    let (outcomes, d'') := loc.attemptAll d' rest
    (⟨p, attempt⟩ :: outcomes, d'')

/-- Fixes a set of positions in a document; none for an empty set. -/
def fix? (loc : Locator) (d : Document) (positions : PositionSet) : Option (FixReport × Document) :=
  if positions.isEmpty then none
  else
    let (outcomes, d') := loc.attemptAll d positions.toList
    some (⟨outcomes⟩, d')

end Locator

end LongSuffix
