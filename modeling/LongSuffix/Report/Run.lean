import LongSuffix.FileFix
import LongSuffix.Report.Basic

/-!
# Running reports

The files of a report are run one after the other. A file that fails does not stop the others.
-/

namespace LongSuffix

/-- Whether a run writes. -/
inductive Mode where
  | check
  | apply
  deriving DecidableEq

/-- A run on one file in the given mode. -/
def Mode.run (mode : Mode) {m : Type → Type} [Monad m] (analyzer : Analyzer) (path : Path)
    (positions : PositionSet) (strategy : Strategy) (store : Store m) : m FileRun :=
  match mode with
  | .check => previewFile analyzer path positions strategy store
  | .apply => fixFile analyzer path positions strategy store

abbrev FileResult := Path × Except FixError FileFix

/-- The results of a report, file by file, and what there is to say on the way. -/
structure ReportRun where
  events : List Log.Event
  results : List FileResult

namespace ReportRun

/-- What is told of a file that failed. -/
def failure (path : Path) : Except FixError FileFix → List Log.Event
  | .ok _ => []
  | .error e =>
    [⟨.warn, "long_literal_fixer::config::applicator", s!"failed to fix file: {e.message}",
      [("path", path.text)]⟩]

end ReportRun

section

variable {m : Type → Type} [Monad m] (mode : Mode) (analyzer : Analyzer) (strategy : Strategy)
  (store : Store m)

def runGroups : Groups → m ReportRun
  | [] => return ⟨[], []⟩
  | (path, positions) :: rest => do
    let run ← mode.run analyzer path positions strategy store
    let more ← runGroups rest
    return ⟨run.events ++ ReportRun.failure path run.result ++ more.events,
      (path, run.result) :: more.results⟩

end

/-- Runs a report on the files of a store. -/
def ViolationReport.run {m : Type → Type} [Monad m] (r : ViolationReport) (mode : Mode)
    (analyzer : Analyzer) (workspace : Path) (store : Store m) : m ReportRun :=
  runGroups mode analyzer r.metadata.strategy store (r.groups workspace)

/-! ## Totals -/

structure Totals where
  fixed : Nat
  skipped : Nat
  written : Nat
  failed : Nat
  deriving DecidableEq

namespace Totals

def zero : Totals := ⟨0, 0, 0, 0⟩

/-- Counts one more result. -/
def add (t : Totals) : Except FixError FileFix → Totals
  | .ok fix =>
    { t with
      fixed := t.fixed + fix.report.fixedCount
      skipped := t.skipped + fix.report.skipped.length
      written := t.written + if fix.persisted then 1 else 0 }
  | .error _ => { t with failed := t.failed + 1 }

def ofResults (results : List FileResult) : Totals := results.foldl (fun t r => t.add r.2) zero

end Totals

end LongSuffix
