import LongSuffix.Decimal.Shortest
import LongSuffix.Mismatch
import LongSuffix.Report.Basic
import LongSuffix.Store
import LongSuffix.Toml.Scan

/-!
# Reports in TOML

A report has a table `meta` and an array `violations`. Either may also be given by arrays in place
of tables, with the fields in order. Keys are looked at in the order of the text, and the first one
that does not fit is told with its place; keys of other names do not count.
-/

namespace LongSuffix

open Toml

/-- What does not fit, and where. -/
structure Misfit where
  offset : Nat
  mismatch : Mismatch

abbrev Decode (α : Type) := Item → Except Misfit α

namespace Decode

/-- Floating point numbers are written out without exponents. -/
def floatStyle : Decimal.Style := ⟨none, "NaN", "inf"⟩

def found : Item → Found
  | .scalar _ (.text s) => .text s
  | .scalar _ (.integer n) => .integer n
  | .scalar _ (.float x) => .float (floatStyle.render x)
  | .scalar _ (.boolean b) => .boolean b
  | .scalar _ .date => .map
  | .array _ _ | .tables _ _ => .sequence
  | .table _ _ _ => .map

def wrongType {α : Type} (item : Item) (expected : String) : Except Misfit α :=
  .error ⟨item.offset, .invalidType (found item) expected⟩

/-! ## Simple values -/

def text : Decode String
  | .scalar _ (.text s) => .ok (String.ofList s)
  | item => wrongType item "a string"

def boolean : Decode Bool
  | .scalar _ (.boolean b) => .ok b
  | item => wrongType item "a boolean"

/-- A number of lines or columns. -/
def count : Decode Nat
  | .scalar offset (.integer n) =>
    if n < 0 then .error ⟨offset, .invalidValue (.integer n) "usize"⟩ else .ok n.toNat
  | item => wrongType item "usize"

/-! ## Strategies -/

def strategyNamed (name : List Char) (offset : Nat) : Except Misfit Strategy :=
  match [Strategy.coordinate, .range].find? (·.name.toList == name) with
  | some s => .ok s
  | none => .error ⟨offset, .unknownVariant (String.ofList name) "`coordinate` or `range`"⟩

/-- What an item is called where a table is expected. -/
def typeName : Item → String
  | .scalar _ (.text _) => "string"
  | .scalar _ (.integer _) => "integer"
  | .scalar _ (.float _) => "float"
  | .scalar _ (.boolean _) => "boolean"
  | .scalar _ .date => "datetime"
  | .array _ _ => "array"
  | .tables _ _ => "array of tables"
  | .table _ _ _ => "table"

/-- Under the name of a strategy only an empty table may stand. -/
def emptyTable : Decode Unit
  | .table _ _ [] => .ok ()
  | .table offset _ _ => .error ⟨offset, .refused "expected empty table"⟩
  | item => .error ⟨item.offset, .refused s!"expected table, found {typeName item}"⟩

/-- A strategy is a name, or a table with the name as its only key. -/
def strategy : Decode Strategy
  | .scalar offset (.text s) => strategyNamed s offset
  | .table _ _ [(key, item)] => do
    let s ← strategyNamed key.text key.offset
    emptyTable item
    return s
  | .table offset _ [] => .error ⟨offset, .refused "wanted exactly 1 element, found 0 elements"⟩
  | .table offset _ _ => .error ⟨offset, .refused "wanted exactly 1 element, more than 1 element"⟩
  | item => .error ⟨item.offset, .refused "wanted string or table"⟩

/-! ## Metadata -/

/-- A field of the metadata by its name or its place in an array. -/
def metadataFields : List (String × (Metadata → Item → Except Misfit Metadata)) :=
  [("name", fun m item => do return { m with name := ← text item }),
   ("description", fun m item => do return { m with description := some (← text item) }),
   ("strategy", fun m item => do return { m with strategy := ← strategy item }),
   ("workspace_relative", fun m item => do return { m with workspaceRelative := ← boolean item })]

/-- Reads one entry of a table into a value, if a field has its name. -/
def readEntry {α : Type} (fields : List (String × (α → Item → Except Misfit α))) (a : α)
    (entry : Key × Item) : Except Misfit α :=
  match fields.find? (·.1.toList == entry.1.text) with
  | some (_, read) => read a entry.2
  | none => .ok a

def readEntries {α : Type} (fields : List (String × (α → Item → Except Misfit α))) :
    α → List (Key × Item) → Except Misfit α
  | a, [] => .ok a
  | a, entry :: rest => do readEntries fields (← readEntry fields a entry) rest

/-- Reads items into the fields in order, as far as there are both. -/
def readItems {α : Type} : List (String × (α → Item → Except Misfit α)) → α → List Item →
    Except Misfit α
  | (_, read) :: fields, a, item :: rest => do readItems fields (← read a item) rest
  | _, a, _ => .ok a

def metadata : Decode Metadata
  | .table _ _ entries => readEntries metadataFields {} entries
  | .array _ items | .tables _ items => readItems metadataFields {} items
  | .scalar _ .date => .ok {}
  | item => wrongType item "struct Metadata"

/-! ## Violations -/

/-- The fields of a violation that were read so far. -/
structure Partial where
  file : Option String := none
  line : Option Nat := none
  column : Option Nat := none

def violationFields : List (String × (Partial → Item → Except Misfit Partial)) :=
  [("file", fun v item => do return { v with file := some (← text item) }),
   ("line", fun v item => do return { v with line := some (← count item) }),
   ("column", fun v item => do return { v with column := some (← count item) })]

/-- A violation with all its fields, or the first one that is missing. -/
def Partial.complete (v : Partial) (missing : Nat → String → Misfit) : Except Misfit Violation :=
  match v.file, v.line, v.column with
  | none, _, _ => .error (missing 0 "file")
  | _, none, _ => .error (missing 1 "line")
  | _, _, none => .error (missing 2 "column")
  | some file, some line, some column => .ok ⟨file, line, column⟩

def violation : Decode Violation
  | .table offset _ entries => do
    let v ← readEntries violationFields {} entries
    v.complete fun _ name => ⟨offset, .missingField name⟩
  | .array offset items | .tables offset items => do
    let v ← readItems violationFields {} items
    v.complete fun n _ => ⟨offset, .invalidLength n "struct ViolationEntry with 3 elements"⟩
  | .scalar offset .date => Partial.complete {} fun _ name => ⟨offset, .missingField name⟩
  | item => wrongType item "struct ViolationEntry"

def violations : Decode (List Violation)
  | .array _ items | .tables _ items => items.mapM violation
  | item => wrongType item "a sequence"

/-! ## Reports -/

def reportFields : List (String × (ViolationReport → Item → Except Misfit ViolationReport)) :=
  [("meta", fun r item => do return { r with metadata := ← metadata item }),
   ("violations", fun r item => do return { r with violations := ← violations item })]

def report (t : Table) : Except Misfit ViolationReport :=
  readEntries reportFields ⟨{}, []⟩ t.entries

end Decode

/-! ## Loading -/

/-- A place in a text, counted from one. -/
def lineAndColumn (cs : List Char) (offset : Nat) : Nat × Nat :=
  let front := cs.take offset
  (front.count '\n' + 1, (front.reverse.takeWhile (· != '\n')).length + 1)

inductive ReportError where
  | unreadable (path : Path) (fault : Fault)
  /-- The text is not TOML. -/
  | malformed (path : Option Path)
  | misfit (path : Option Path) (line column : Nat) (mismatch : Mismatch)
  | invalid (path : Option Path) (issues : List Issue)

namespace ReportError

/-- The path of a report in the text of an error. -/
def place : Option Path → String
  | some path => s!" ({path.text})"
  | none => ""

/-- The first line of the text of an error. -/
def message : ReportError → String
  | unreadable path fault => s!"failed to read violation report from {path.text}: {fault.message}"
  | malformed path => s!"failed to parse violation report TOML{place path}: TOML parse error"
  | misfit path line column _ =>
    s!"failed to parse violation report TOML{place path}: TOML parse error at line {line}, column {column}"
  | invalid path issues =>
    s!"invalid violation report{place path}: " ++ "\n".intercalate (issues.map Issue.message)

end ReportError

/-- The report in a text, if there is nothing wrong with it. -/
def ViolationReport.load (path : Option Path) (text : String) :
    Except ReportError ViolationReport :=
  match Toml.parse text with
  | none => .error (.malformed path)
  | some table =>
    match Decode.report table with
    | .error misfit =>
      let (line, column) := lineAndColumn text.toList misfit.offset
      .error (.misfit path line column misfit.mismatch)
    | .ok report =>
      if report.issues.isEmpty then .ok report else .error (.invalid path report.issues)

end LongSuffix
