import LongSuffix.Batch
import LongSuffix.Log
import LongSuffix.Store
import LongSuffix.Tree.Structure

/-!
# Fixing files

A file is loaded, the reported positions are fixed, and the text is written back if something
changed. By range, the changed text has to have the structure it had before.
-/

namespace LongSuffix

inductive FixError where
  | noPositions
  | missingTarget (path : Path)
  | unreadable (path : Path) (fault : Fault)
  | unwritable (path : Path) (fault : Fault)
  | noTokens (path : Path) (fault : SyntaxFault)
  | rejected (path : Path) (fault : SyntaxFault)
  deriving DecidableEq

def FixError.message : FixError → String
  | noPositions => "violation positions cannot be empty"
  | missingTarget path => s!"file not found: {path.text}"
  | unreadable path fault => s!"failed to read {path.text}: {fault.message}"
  | unwritable path fault => s!"failed to write fixes to {path.text}: {fault.message}"
  | noTokens path fault => s!"token stream unavailable for {path.text}: {fault.message}"
  | rejected path fault => s!"rewrite of {path.text} rejected: {fault.message}"

/-- What came of fixing one file. -/
structure FileFix where
  path : Path
  strategy : Strategy
  report : FixReport
  /-- The text that was loaded. -/
  loaded : String
  updated : String
  /-- Whether the updated text was written. -/
  persisted : Bool
  deriving DecidableEq

/-- The result of a run on a file, and what it has to say on the way. -/
structure FileRun where
  events : List Log.Event
  result : Except FixError FileFix

/-! ## Events -/

namespace FixEvent

open Log

def target : String := "long_literal_fixer::batch"

/-- What is told about one position. -/
def outcome (strategy : Strategy) (o : Outcome) : Event :=
  let position := ("position", o.position.text)
  let locator := ("locator", Text.quoted strategy.name.toList)
  match o.attempt with
  | .applied => ⟨.info, target, "fixed lowercase 'l'", [position, locator]⟩
  | .alreadyApplied => ⟨.debug, target, "suffix already uppercase", [position]⟩
  | .stale e => ⟨.warn, target, s!"stale target: {e.message}", [position, locator]⟩
  | .outOfBounds e => ⟨.warn, target, s!"skipping violation: {e.message}", [position, locator]⟩
  | .noMatch found =>
    ⟨.debug, target, "no lowercase suffix at position",
      [position, ("found", s!"Some({Text.quotedChar found})"), locator]⟩
  | .unsupported reason =>
    ⟨.warn, target, s!"skipping violation: {reason.message}", [position, locator]⟩

/-- What is told about a batch: each position, then the count. -/
def batch (strategy : Strategy) (r : FixReport) : List Event :=
  let total := ("total", toString r.outcomes.length)
  r.outcomes.map (outcome strategy) ++
    [if r.changed then
      ⟨.info, target, "fixed lowercase long suffixes", [("fixed", toString r.fixedCount), total]⟩
    else ⟨.info, target, "no violations fixed at specified positions", [total]⟩]

def extracted (path : Path) (count : Nat) : Event :=
  ⟨.debug, target, "extracted literal tokens", [("path", path.text), ("tokens", toString count)]⟩

def untouched (path : Path) : Event :=
  ⟨.info, target, "no violations fixed; file left untouched", [("path", path.text)]⟩

def written (path : Path) (fixed : Nat) : Event :=
  ⟨.info, target, "file updated with fixes at specified positions",
    [("path", path.text), ("fixed", toString fixed)]⟩

end FixEvent

/-! ## Runs -/

section

variable (analyzer : Analyzer) (path : Path) (positions : PositionSet) (strategy : Strategy)

/-- The locator for a text, and what is told about it. -/
def locatorFor (text : String) : Except FixError (Locator × List Log.Event) :=
  match strategy with
  | .coordinate => .ok (.coordinate, [])
  | .range =>
    match analyzer.literals text with
    | .ok tokens => .ok (.range tokens, [FixEvent.extracted path tokens.length])
    | .error fault => .error (.noTokens path fault)

/-- Fixes the positions in the text of a file. -/
def fixText (text : String) : FileRun :=
  match locatorFor analyzer path strategy text with
  | .error e => ⟨[], .error e⟩
  | .ok (locator, events) =>
    match locator.fix? (Document.parse text) positions with
    | none => ⟨events, .error .noPositions⟩
    | some (report, d) =>
      let events := events ++ FixEvent.batch strategy report
      let fix : FileFix := ⟨path, strategy, report, text, d.render, false⟩
      if strategy = .range ∧ report.changed then
        match analyzer.check text fix.updated with
        | .ok () => ⟨events, .ok fix⟩
        | .error fault => ⟨events, .error (.rejected path fault)⟩
      else ⟨events, .ok fix⟩

variable {m : Type → Type} [Monad m] (store : Store m)

/-- A run that writes nothing. -/
def previewFile : m FileRun := do
  if positions.isEmpty then return ⟨[], .error .noPositions⟩
  match ← store.load path with
  | .error .notFound => return ⟨[], .error (.missingTarget path)⟩
  | .error fault => return ⟨[], .error (.unreadable path fault)⟩
  | .ok text => return fixText analyzer path positions strategy text

/-- A run that writes the text back if something was fixed. -/
def fixFile : m FileRun := do
  let run ← previewFile analyzer path positions strategy store
  match run.result with
  | .error _ => return run
  | .ok fix =>
    if fix.report.changed then
      match ← store.persist path fix.updated with
      | .error fault => return ⟨run.events, .error (.unwritable path fault)⟩
      | .ok () =>
        return ⟨run.events ++ [FixEvent.written path fix.report.fixedCount],
          .ok { fix with persisted := true }⟩
    else return ⟨run.events ++ [FixEvent.untouched path], run.result⟩

end

end LongSuffix
