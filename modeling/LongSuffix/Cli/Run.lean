import LongSuffix.Cli.Style
import LongSuffix.Cli.Usage
import LongSuffix.Diff.Compact
import LongSuffix.Host
import LongSuffix.Json.Value
import LongSuffix.Log.Filter
import LongSuffix.Report.Decode
import LongSuffix.Report.Run

/-!
# Commands

What the commands do and what they show. A command gives its exit code and the texts for the two
streams.
-/

namespace LongSuffix.Cli

structure Environment where
  analyzer : Analyzer
  /-- The log level that holds if the command line has none. -/
  logLevel : Option String
  coloured : Bool

structure Reply where
  exit : Nat
  out : String
  err : String

def lines (ls : List String) : String := String.join (ls.map (· ++ "\n"))

/-- The events that a filter lets through, one a line. -/
def logLines (f : Log.Filter) (events : List Log.Event) : String :=
  lines ((events.filter f.shows).map Log.Event.render)

/-! ## What is shown of a file -/

section

variable (style : Style)

/-- A position and what came of it. -/
def outcomeLine (path : Path) (dryRun : Bool) (o : Outcome) : String :=
  let place := s!"{path.text}:{o.position.text}"
  match o.status with
  | .fixed =>
    let verb := if dryRun then "Would fix" else "Fixed"
    style.paint .green "✓" ++ s!" {place}: {verb}"
  | .noMatch c => style.paint .cyan "⊘" ++ s!" {place}: Skipped ({(Status.noMatch c).message})"
  | status => style.paint .yellow "⊙" ++ s!" {place}: Skipped ({status.message})"

/-- The changed lines of a file under a heading. -/
def diffText (path : Path) (before after : String) : String :=
  "\n" ++ style.paint .dim s!"--- {path.text} (original)" ++ "\n"
    ++ style.paint .dim s!"+++ {path.text} (fixed)" ++ "\n"
    ++ String.join ((Diff.changedLines before after).map fun (tag, line) =>
      style.paint (if tag = .delete then .red else .green) line)

def fileText (fix : FileFix) (dryRun diff : Bool) : String :=
  lines (fix.report.outcomes.map (outcomeLine style fix.path dryRun))
    ++ if diff && fix.loaded != fix.updated then diffText style fix.path fix.loaded fix.updated else ""

/-- An error at a path. -/
def errorLine (path : Path) (message : String) : String :=
  style.paint .red "✗" ++ s!" {path.text}: Error - {message}\n"

def fixErrorText (path : Path) (e : FixError) : String :=
  errorLine style path e.message ++
    match e with
    | .rejected _ _ =>
      "  " ++ style.paint .red "Rewrite would change the parse tree; file left untouched" ++ "\n"
    | _ => ""

/-- A count with what it counts. -/
def countLine (paint : Paint) (n : Nat) (what : String) : String :=
  "  " ++ style.paint paint (toString n) ++ " " ++ what

/-- What every summary starts with. -/
def summaryLines (fixed skipped : Nat) : List String :=
  ["", style.paint .bold "Summary:", countLine style .green fixed "fixed",
    countLine style .cyan skipped "skipped"]

end

/-! ## Fixing one file -/

def fixJson (fix : FileFix) : Json.Value :=
  .object [("file", .text fix.path.text), ("strategy", .text fix.strategy.name),
    ("fixed", .natural fix.report.fixedCount), ("persisted", .boolean fix.persisted),
    ("outcomes", .array (fix.report.outcomes.map fun o =>
      .object [("position", .object [("line", .natural o.position.line),
          ("column", .natural o.position.column)]),
        ("status", .text o.status.message)]))]

def fixReply (style : Style) (o : FixOptions) : Except FixError FileFix → Reply
  | .error e =>
    if o.json then
      let value : Json.Value := .object [("file", .text o.file.text), ("error", .text e.message)]
      ⟨1, value.pretty 0 ++ "\n", ""⟩
    else ⟨1, "", fixErrorText style o.file e⟩
  | .ok fix =>
    if o.json then ⟨0, (fixJson fix).pretty 0 ++ "\n", ""⟩
    else
      let note := if fix.report.changed && !fix.persisted then
        ["  " ++ style.paint .cyan "[DRY RUN - file not modified]"] else []
      ⟨0, fileText style fix o.dryRun o.diff
        ++ lines (summaryLines style fix.report.fixedCount fix.report.skipped.length ++ note), ""⟩

/-! ## Applying a report -/

/-- The directory of a report is the workspace if none is given. -/
def workspaceOf (o : ApplyOptions) : Path :=
  match o.workspace with
  | some path => path
  | none =>
    match o.report.parent? with
    | some parent => if parent.text.isEmpty then ⟨"."⟩ else parent
    | none => ⟨"."⟩

def resultTexts (style : Style) (o : ApplyOptions) (result : FileResult) : String × String :=
  match result with
  | (_, .ok fix) => (fileText style fix o.dryRun o.diff, "")
  | (path, .error e) => ("", fixErrorText style path e)

def summaryText (style : Style) (t : Totals) : String :=
  lines (summaryLines style t.fixed t.skipped ++ [countLine style .green t.written "files written",
    countLine style .red t.failed "files failed"])

def applyReply (style : Style) (o : ApplyOptions) (workspace : Path) (r : ViolationReport)
    (results : List FileResult) : Reply :=
  let totals := Totals.ofResults results
  let name := if r.metadata.name.isEmpty then [] else [s!"Report: {r.metadata.name}"]
  let note := if o.dryRun then
    [style.paint .cyan "  [DRY RUN - showing what would be fixed]"] else []
  let texts := results.map (resultTexts style o)
  let head := lines (name ++ [s!"Workspace: {workspace.text}",
    s!"Strategy: {r.metadata.strategy.name}", ""] ++ note)
  ⟨if 0 < totals.failed then 1 else 0,
    head ++ String.join (texts.map (·.1)) ++ summaryText style totals,
    String.join (texts.map (·.2))⟩

/-! ## Scanning -/

structure Hit where
  file : Path
  position : Position
  literal : Literal

def hits (file : Path) (tokens : List Literal) : List Hit :=
  (tokens.filter Literal.isLowercaseLong).filterMap fun t =>
    t.suffixPosition.map fun p => ⟨file, p, t⟩

def hitJson (h : Hit) : Json.Value :=
  .object [("file", .text h.file.text),
    ("position", .object [("line", .natural h.position.line), ("column", .natural h.position.column)]),
    ("literal", .text (String.ofList h.literal.text))]

def isSource (p : Path) : Bool := p.extension? == some "java".toList

/-- Files in the order of their paths. -/
def insertPath (p : Path) : List Path → List Path
  | [] => [p]
  | q :: rest => if p.before q then p :: q :: rest else q :: insertPath p rest

/-- Why the literals of a file are not known. -/
inductive LiteralsError where
  | unreadable (path : Path) (fault : Fault)
  | unparsed (fault : SyntaxFault)

def LiteralsError.message : LiteralsError → String
  | unreadable path fault => s!"I/O error reading {path.text}: {fault.message}"
  | unparsed fault => fault.message

section

variable {m : Type → Type} [Monad m] (host : Host m) (env : Environment)

/-- The literals of a file. -/
def fileLiterals (file : Path) : m (Except LiteralsError (List Literal)) := do
  match ← host.store.load file with
  | .error fault => return .error (.unreadable file fault)
  | .ok text =>
    match env.analyzer.literals text with
    | .ok tokens => return .ok tokens
    | .error fault => return .error (.unparsed fault)

/-- The hits in files, and the files that failed. -/
def scanFiles : List Path → m (List Hit × List (Path × String))
  | [] => return ([], [])
  | file :: rest => do
    let literals ← fileLiterals host env file
    let (found, failed) ← scanFiles rest
    match literals with
    | .ok tokens => return (hits file tokens ++ found, failed)
    | .error e => return (found, (file, e.message) :: failed)

end

def scanReply (style : Style) (o : ScanOptions) (found : List Hit)
    (failed : List (Path × String)) : Reply :=
  let out :=
    if o.json then (Json.Value.array (found.map hitJson)).pretty 0 ++ "\n"
    else if found.isEmpty && failed.isEmpty then
      style.paint .green "No lowercase long literals found" ++ "\n"
    else lines (found.map fun h =>
      s!"{h.file.text}:{h.position.text} " ++ style.paint .yellow (String.ofList h.literal.text))
  ⟨if failed.isEmpty then 0 else 1, out,
    String.join (failed.map fun (path, message) => errorLine style path message)⟩

/-! ## Running commands -/

section

variable {m : Type → Type} [Monad m] (host : Host m) (env : Environment) (filter : Log.Filter)

def Reply.logged (r : Reply) (events : List Log.Event) : Reply :=
  { r with err := logLines filter events ++ r.err }

def runFix (o : FixOptions) : m Reply := do
  let mode : Mode := if o.dryRun then .check else .apply
  let run ← mode.run env.analyzer o.file (.ofList o.positions) o.strategy host.store
  return (fixReply ⟨env.coloured⟩ o run.result).logged filter run.events

def failure (message : String) : Reply := ⟨1, "", s!"Error: {message}\n"⟩

/-- Applies a report that has been loaded. -/
def applyReport (o : ApplyOptions) (r : ViolationReport) : m Reply := do
  let workspace := workspaceOf o
  let mode : Mode := if o.dryRun then .check else .apply
  let run ← r.run mode env.analyzer workspace host.store
  return (applyReply ⟨env.coloured⟩ o workspace r run.results).logged filter run.events

def runApply (o : ApplyOptions) : m Reply := do
  match ← host.store.load o.report with
  | .error fault => return failure (ReportError.unreadable o.report fault).message
  | .ok text =>
    match ViolationReport.load (some o.report) text with
    | .error e => return failure e.message
    | .ok r => applyReport host env filter o r

def runScan (o : ScanOptions) : m Reply := do
  let entries ← host.walk o.root
  let files := entries.filterMap fun | .ok path => some path | .error _ => none
  let lost := entries.filterMap fun
    | .ok _ => none
    | .error (path, fault) =>
      some (path, s!"IO error for operation on {path.text}: {fault.message}")
  let sorted := (files.filter isSource).foldl (fun l p => insertPath p l) []
  let (found, failed) ← scanFiles host env sorted
  return scanReply ⟨env.coloured⟩ o found (lost ++ failed)

def runCommand : Command → m Reply
  | .fix o => runFix host env filter o
  | .apply o => runApply host env filter o
  | .scan o => runScan host env o

end

/-- What is logged if nothing is said about it. -/
def defaultLogLevel : String := "warn"

/-- Runs a command line. -/
def run {m : Type → Type} [Monad m] (host : Host m) (env : Environment) (words : List String) :
    m Reply := do
  match readCommandLine env.logLevel words with
  | .error (.error e) => return ⟨2, "", e.message ++ "\n"⟩
  | .error .help => return ⟨0, about ++ "\n", ""⟩
  | .error .version => return ⟨0, s!"{programName} 0.1.0\n", ""⟩
  | .ok invocation =>
    let level := (invocation.logLevel <|> env.logLevel).getD defaultLogLevel
    match Log.Filter.parse? level with
    | none => return failure "invalid filter directive"
    | some filter => runCommand host env filter invocation.command

end LongSuffix.Cli
