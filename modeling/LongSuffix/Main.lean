import LongSuffix.Cli.Run
import LongSuffix.Java.Parse

/-!
# The program

The command line on the files of the machine.
-/

namespace LongSuffix

/-- What an error of the machine is here. -/
def faultOf (e : IO.Error) : Fault :=
  match e with
  | .noFileOrDirectory .. => .notFound
  | .inappropriateType _ code _ =>
    if code = 21 then .isADirectory else .notADirectory
  | .resourceBusy .. => .busy
  | e => .refused (toString e)

def attempt {α : Type} (act : IO α) : IO (Except Fault α) := do
  try return .ok (← act) catch e => return .error (faultOf e)

def loadFile (path : Path) : IO (Except Fault String) := do
  match ← attempt (IO.FS.readBinFile path.text) with
  | .error fault => return .error fault
  | .ok bytes =>
    match String.fromUTF8? bytes with
    | some text => return .ok text
    | none => return .error .invalidText

/-- Opens a new file in a directory, under the first of so many names that no file there has. -/
def openDraft (directory : Path) : Nat → IO (IO.FS.Handle × Path)
  | 0 => throw (.userError "too many temporary files exist")
  | n + 1 => do
    let draft := directory.join ⟨s!".long-suffix-{n}.tmp"⟩
    try return (← IO.FS.Handle.mk draft.text .writeNew, draft)
    catch
      | .alreadyExists .. => openDraft directory n
      | e => throw e

/-- Writes beside a file first, and then puts the new file in the place of the old one. The library can
neither wait until the machine has put a file on its disk, nor read the access rights of the old file: the
new file has those of any file that the program creates. -/
def persistFile (path : Path) (text : String) : IO (Except Fault Unit) := do
  match path.parent? with
  | none => return .error .noParent
  | some parent =>
    let directory : Path := if parent.text.isEmpty then ⟨"."⟩ else parent
    attempt do
      let (handle, draft) ← openDraft directory 65536
      try
        handle.putStr text
        handle.flush
        IO.FS.rename draft.text path.text
      catch e =>
        IO.FS.removeFile draft.text
        throw e

partial def walkFiles (path : Path) : IO (List (Except (Path × Fault) Path)) := do
  match ← attempt (System.mkFilePath [path.text]).metadata with
  | .error fault => return [.error (path, fault)]
  | .ok info =>
    match info.type with
    | .file => return [.ok path]
    | .dir =>
      match ← attempt (System.mkFilePath [path.text]).readDir with
      | .error fault => return [.error (path, fault)]
      | .ok entries =>
        let parts ← entries.toList.mapM fun e => walkFiles (path.join ⟨e.fileName⟩)
        return parts.flatten
    | _ => return []

def machine : Host IO where
  store := ⟨loadFile, persistFile⟩
  walk := walkFiles

/-- Whether the output is coloured: by wish, or on a terminal. -/
def isColoured : IO Bool := do
  match ← IO.getEnv "CLICOLOR_FORCE", ← IO.getEnv "NO_COLOR" with
  | some force, none => return force != "0" || (← (← IO.getStdout).isTty)
  | some force, some _ => return force != "0"
  | none, some _ => return false
  | none, none => (← IO.getStdout).isTty

end LongSuffix

open LongSuffix in
def main (args : List String) : IO UInt32 := do
  let env : Cli.Environment := {
    analyzer := Java.analyzer
    logLevel := ← IO.getEnv "LONG_LITERAL_FIXER_LOG"
    coloured := ← isColoured }
  let reply ← Cli.run machine env args
  IO.eprint reply.err
  IO.print reply.out
  return reply.exit.toUInt32
