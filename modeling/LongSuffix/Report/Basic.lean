import LongSuffix.Locate
import LongSuffix.Path

/-!
# Violation reports

A report lists violations: a file and a position each. It is checked as a whole, so that all that
is wrong with it is told at once, and its positions are grouped by file.
-/

namespace LongSuffix

structure Metadata where
  name : String := ""
  description : Option String := none
  strategy : Strategy := .coordinate
  /-- Whether files are looked for below the workspace. -/
  workspaceRelative : Bool := false
  deriving DecidableEq

structure Violation where
  file : String
  line : Nat
  column : Nat
  deriving DecidableEq

def Violation.position (v : Violation) : Except PositionError Position :=
  Position.of v.line v.column

structure ViolationReport where
  metadata : Metadata
  violations : List Violation
  deriving DecidableEq

/-! ## What is wrong with a report -/

inductive Issue where
  | emptyList
  | missingFile (index : Nat)
  | invalidPosition (index : Nat) (file : String) (cause : PositionError)
  deriving DecidableEq

def Issue.message : Issue → String
  | emptyList => "report contains no violations"
  | missingFile index => s!"violation #{index} missing required field 'file'"
  | invalidPosition index file cause =>
    s!"violation #{index} in '{file}' has invalid position: {cause.message}"

/-- What is wrong with the violation at an index. -/
def Violation.issues (index : Nat) (v : Violation) : List Issue :=
  (if (Text.trim v.file.toList).isEmpty then [.missingFile index] else [])
    ++ match v.position with
      | .ok _ => []
      | .error cause => [.invalidPosition index v.file cause]

namespace ViolationReport

def issues (r : ViolationReport) : List Issue :=
  (if r.violations.isEmpty then [.emptyList] else [])
    ++ (r.violations.zipIdx.flatMap fun (v, index) => v.issues index)

/-! ## Groups -/

/-- Where the file of a violation is. -/
def resolve (r : ViolationReport) (workspace : Path) (v : Violation) : Path :=
  if r.metadata.workspaceRelative then workspace.join ⟨v.file⟩ else ⟨v.file⟩

end ViolationReport

abbrev Groups := List (Path × PositionSet)

/-- Adds a position to the group of its path. The path that came first gives the spelling. -/
def Groups.insert (path : Path) (p : Position) : Groups → Groups
  | [] => [(path, PositionSet.empty.insert p)]
  | (q, positions) :: rest =>
    if path.sameAs q then (q, positions.insert p) :: rest
    else if path.before q then (path, PositionSet.empty.insert p) :: (q, positions) :: rest
    else (q, positions) :: Groups.insert path p rest

/-- The valid positions by file, in the order of the paths. -/
def ViolationReport.groups (r : ViolationReport) (workspace : Path) : Groups :=
  r.violations.foldl
    (fun groups v =>
      match v.position with
      | .ok p => Groups.insert (r.resolve workspace v) p groups
      | .error _ => groups)
    []

end LongSuffix
