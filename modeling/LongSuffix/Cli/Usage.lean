import LongSuffix.Locate
import LongSuffix.Path

/-!
# Command lines

The words of a command line are read from left to right. The value of an option is the next word,
or stands in the same word; a value from the next word is looked at only when the word after it has
turned out to be a known one, or at the end.
-/

namespace LongSuffix.Cli

/-! ## What can be said on a command line -/

/-- One thing that was said. -/
inductive Setting where
  | logLevel (text : String)
  | file (path : Path)
  | position (p : Position)
  | strategy (s : Strategy)
  | dryRun
  | diff
  | json
  | report (path : Path)
  | workspace (path : Path)
  | root (path : Path)
  | help
  | version

/-- What is wrong with a value. -/
inductive ValueFault where
  | empty
  /-- The value is none of those that there are. -/
  | unknown
  | refused (reason : String)

/-- How an argument is given. -/
inductive Shape where
  | flag (setting : Setting)
  /-- An option or a positional argument with a value. -/
  | valued (name : String) (read : String → Except ValueFault Setting)

structure Argument where
  /-- The name after two dashes; none for a positional argument. -/
  long : Option String
  short : Option Char
  shape : Shape
  repeatable : Bool := false

namespace Argument

/-- How an argument is called in messages. -/
def label (a : Argument) : String :=
  match a.long, a.shape with
  | some long, .flag _ => s!"--{long}"
  | some long, .valued name _ => s!"--{long} <{name}>"
  | none, .valued name _ => s!"<{name}>"
  | none, .flag _ => ""

end Argument

inductive UsageError where
  | missingValue (label : String)
  | invalidValue (value label : String)
  | refusedValue (value label reason : String)
  | repeated (label : String)
  | unexpected (word : String)
  | unneededValue (value label : String)
  | unknownCommand (word : String)
  | missingArguments
  | missingCommand
  /-- Nothing at all was said. -/
  | silence

def about : String := "Fix lowercase 'l' long literal suffixes at reported positions"

def programName : String := "long-literal-fixer"

/-- The first line that is shown. -/
def UsageError.message : UsageError → String
  | missingValue label => s!"error: a value is required for '{label}' but none was supplied"
  | invalidValue value label => s!"error: invalid value '{value}' for '{label}'"
  | refusedValue value label reason => s!"error: invalid value '{value}' for '{label}': {reason}"
  | repeated label => s!"error: the argument '{label}' cannot be used multiple times"
  | unexpected word => s!"error: unexpected argument '{word}' found"
  | unneededValue value label =>
    s!"error: unexpected value '{value}' for '{label}' found; no more were expected"
  | unknownCommand word => s!"error: unrecognized subcommand '{word}'"
  | missingArguments => "error: the following required arguments were not provided:"
  | missingCommand => s!"error: '{programName}' requires a subcommand but one was not provided"
  | silence => about

/-- Why reading stops before the end. -/
inductive Stop where
  | error (e : UsageError)
  | help
  | version

/-! ## Arguments -/

def readPath (make : Path → Setting) (value : String) : Except ValueFault Setting :=
  if value.isEmpty then .error .empty else .ok (make ⟨value⟩)

def readPosition (value : String) : Except ValueFault Setting :=
  match Position.parse value with
  | .ok p => .ok (.position p)
  | .error e => .error (.refused e.message)

def readStrategy (value : String) : Except ValueFault Setting :=
  match [Strategy.coordinate, .range].find? (·.name == value) with
  | some s => .ok (.strategy s)
  | none => .error (if value.isEmpty then .empty else .unknown)

def flag (long : String) (short : Option Char) (setting : Setting) : Argument :=
  { long := some long, short, shape := .flag setting }

def logLevel : Argument :=
  { long := some "log-level", short := none,
    shape := .valued "LOG_LEVEL" fun value => .ok (.logLevel value) }

def help : Argument := flag "help" (some 'h') .help

def dryRun : Argument := flag "dry-run" (some 'n') .dryRun

def diff : Argument := flag "diff" (some 'd') .diff

def json : Argument := flag "json" none .json

def positional (name : String) (make : Path → Setting) : Argument :=
  { long := none, short := none, shape := .valued name (readPath make) }

inductive CommandName where
  | fix
  | apply
  | scan
  deriving DecidableEq

namespace CommandName

def text : CommandName → String
  | fix => "fix"
  | apply => "apply"
  | scan => "scan"

def ofText? (s : String) : Option CommandName := [fix, apply, scan].find? (·.text == s)

/-- What a command takes. -/
def arguments : CommandName → List Argument
  | fix =>
    [positional "FILE" .file,
     { long := some "at", short := none, shape := .valued "LINE:COLUMN" readPosition,
       repeatable := true },
     { long := some "strategy", short := some 's', shape := .valued "STRATEGY" readStrategy },
     dryRun, diff, json, logLevel, help]
  | apply =>
    [{ long := some "report", short := some 'r', shape := .valued "REPORT" (readPath .report) },
     { long := some "workspace", short := some 'w',
       shape := .valued "WORKSPACE" (readPath .workspace) },
     dryRun, diff, logLevel, help]
  | scan => [positional "PATH" .root, json, logLevel, help]

end CommandName

/-- What may stand in front of a command. -/
def globalArguments : List Argument := [logLevel, help, flag "version" (some 'V') .version]

/-! ## Reading -/

/-- A value that is not looked at yet. -/
structure Pending where
  argument : Argument
  value : Option String

structure Progress where
  known : List Argument
  /-- What was said, and by which argument. -/
  given : List (String × Setting)
  pending : Option Pending
  /-- The positional arguments that are still to come. -/
  positionals : List Argument
  /-- Whether two dashes have ended the options. -/
  trailing : Bool
  /-- Whether the name of a command is still to come. -/
  expectsCommand : Bool

namespace Progress

def start (known : List Argument) (expectsCommand : Bool) : Progress :=
  ⟨known, [], none, known.filter (·.long.isNone), false, expectsCommand⟩

/-- Whether the next word is the value of an option. -/
def waits (p : Progress) : Bool :=
  match p.pending with
  | some pending => pending.value.isNone
  | none => false

def wasGiven (p : Progress) (a : Argument) : Bool := p.given.any (·.1 == a.label)

def add (p : Progress) (a : Argument) (s : Setting) : Progress :=
  { p with given := p.given ++ [(a.label, s)] }

/-- Takes an argument with its value, if it has one. -/
def take (p : Progress) (a : Argument) (value : Option String) : Except UsageError Progress :=
  let once : Except UsageError Unit :=
    if p.wasGiven a && !a.repeatable then .error (.repeated a.label) else .ok ()
  match a.shape, value with
  | .flag setting, _ => do
    once
    return p.add a setting
  | .valued _ _, none => .error (.missingValue a.label)
  | .valued _ read, some value => do
    once
    match read value with
    | .ok setting => return p.add a setting
    | .error .empty => .error (.missingValue a.label)
    | .error .unknown => .error (.invalidValue value a.label)
    | .error (.refused reason) => .error (.refusedValue value a.label reason)

/-- Looks at the value that was put off. -/
def settle (p : Progress) : Except UsageError Progress :=
  match p.pending with
  | none => .ok p
  | some ⟨a, value⟩ => { p with pending := none }.take a value

/-- An argument that is given now, with its value in the same word if it has one there. -/
def give (p : Progress) (a : Argument) (value : Option String) : Except UsageError Progress := do
  let p ← p.settle
  match a.shape, value with
  | .valued _ _, none => return { p with pending := some ⟨a, none⟩ }
  | _, _ => p.take a value

end Progress

/-- Help and version stop the reading. -/
def checked (p : Progress) : Except Stop Progress :=
  match p.given.getLast? with
  | some (_, .help) => .error .help
  | some (_, .version) => .error .version
  | _ => .ok p

def orStop (r : Except UsageError Progress) : Except Stop Progress :=
  match r with
  | .ok p => checked p
  | .error e => .error (.error e)

/-- The part of a word up to an equals sign, and the part after it. -/
def splitEquals (cs : List Char) : List Char × Option (List Char) :=
  match cs.dropWhile (· != '=') with
  | [] => (cs, none)
  | _ :: value => (cs.takeWhile (· != '='), some value)

/-- A word that starts with two dashes. -/
def longWord (p : Progress) (word : List Char) : Except Stop Progress :=
  let (name, value) := splitEquals word
  match p.known.find? (fun a => a.long.any (·.toList == name)) with
  | none => .error (.error (.unexpected (String.ofList (['-', '-'] ++ name))))
  | some a =>
    match a.shape, value with
    | .flag _, some v => .error (.error (.unneededValue (String.ofList v) a.label))
    | _, _ => orStop (p.give a (value.map String.ofList))

/-- The letters after one dash. An option that takes a value takes the rest of the word. -/
def shortWord (p : Progress) : List Char → Except Stop Progress
  | [] => .ok p
  | c :: rest =>
    match p.known.find? (·.short == some c) with
    | none => .error (.error (.unexpected (String.ofList ['-', c])))
    | some a =>
      match a.shape with
      | .flag _ =>
        match orStop (p.give a none) with
        | .ok p' => shortWord p' rest
        | .error e => .error e
      | .valued _ _ =>
        let value := match rest with
          | [] => none
          | '=' :: value => some value
          | value => some value
        orStop (p.give a (value.map String.ofList))

/-- What is told of a word that nothing takes. -/
def stray (p : Progress) (word : String) : UsageError :=
  if p.expectsCommand && !(p.trailing && (CommandName.ofText? word).isSome) then .unknownCommand word
  else .unexpected word

/-- A word without dashes, or after two dashes that stood alone. -/
def plainWord (p : Progress) (word : String) : Except Stop Progress :=
  match p.positionals with
  | [] => .error (.error (stray p word))
  | a :: more =>
    match p.settle with
    | .error e => .error (.error e)
    | .ok p => .ok { p with pending := some ⟨a, some word⟩, positionals := more }

/-- The next word. -/
def next (p : Progress) (word : String) : Except Stop Progress :=
  if p.trailing then plainWord p word
  else
    match word.toList with
    | ['-', '-'] => .ok { p with trailing := true }
    | '-' :: '-' :: rest => longWord p rest
    | '-' :: c :: rest => shortWord p (c :: rest)
    | _ =>
      match p.pending with
      | some ⟨a, none⟩ => .ok { p with pending := some ⟨a, some word⟩ }
      | _ => plainWord p word

def readWords (p : Progress) : List String → Except Stop Progress
  | [] => orStop p.settle
  | word :: rest =>
    match next p word with
    | .ok p' => readWords p' rest
    | .error e => .error e

/-! ## Commands -/

structure FixOptions where
  file : Path
  positions : List Position
  strategy : Strategy
  dryRun : Bool
  diff : Bool
  json : Bool

structure ApplyOptions where
  report : Path
  workspace : Option Path
  dryRun : Bool
  diff : Bool

structure ScanOptions where
  root : Path
  json : Bool

inductive Command where
  | fix (o : FixOptions)
  | apply (o : ApplyOptions)
  | scan (o : ScanOptions)

structure Invocation where
  logLevel : Option String
  command : Command

/-- What was said, looked up by kind. -/
abbrev Settings := List Setting

namespace Settings

def logLevel? (s : Settings) : Option String :=
  s.findSome? fun | .logLevel text => some text | _ => none

def dryRun (s : Settings) : Bool := s.any fun | .dryRun => true | _ => false

def diff (s : Settings) : Bool := s.any fun | .diff => true | _ => false

def json (s : Settings) : Bool := s.any fun | .json => true | _ => false

def positions (s : Settings) : List Position :=
  s.filterMap fun | .position p => some p | _ => none

def strategy (s : Settings) : Strategy :=
  (s.findSome? fun | .strategy x => some x | _ => none).getD .coordinate

/-- The command that was said, if all it needs was. -/
def command? (s : Settings) : CommandName → Option Command
  | .fix => do
    let file ← s.findSome? fun | .file p => some p | _ => none
    if s.positions.isEmpty then none
    return .fix ⟨file, s.positions, s.strategy, s.dryRun, s.diff, s.json⟩
  | .apply => do
    let report ← s.findSome? fun | .report p => some p | _ => none
    let workspace := s.findSome? fun | .workspace p => some p | _ => none
    return .apply ⟨report, workspace, s.dryRun, s.diff⟩
  | .scan => do
    let root ← s.findSome? fun | .root p => some p | _ => none
    return .scan ⟨root, s.json⟩

end Settings

/-- Reads the words after the name of a command. A log level there counts more than one in front. -/
def readCommand (name : CommandName) (outer : Option String) (words : List String) :
    Except Stop Invocation := do
  let p ← readWords (.start name.arguments false) words
  let said : Settings := p.given.map (·.2)
  match said.command? name with
  | some command => return ⟨said.logLevel? <|> outer, command⟩
  | none => .error (.error .missingArguments)

/-- Reads the words in front of the command. A word names a command unless an option waits for its
value. -/
def readGlobal (hasDefault : Bool) (p : Progress) : List String → Except Stop Invocation
  | [] => do
    let p ← orStop p.settle
    .error (.error (if p.given.isEmpty && !hasDefault then .silence else .missingCommand))
  | word :: rest =>
    let free := !p.trailing && !p.waits
    if free && word == "help" then .error .help
    else
      match if free then CommandName.ofText? word else none with
      | some name => do
        let p ← orStop p.settle
        readCommand name (Settings.logLevel? (p.given.map (·.2))) rest
      | none => do readGlobal hasDefault (← next p word) rest

/-- Reads a command line. `environment` is the log level from outside of it. -/
def readCommandLine (environment : Option String) (words : List String) : Except Stop Invocation :=
  readGlobal environment.isSome (.start globalArguments true) words

end LongSuffix.Cli
