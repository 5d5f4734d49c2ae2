import LongSuffix.Document
import LongSuffix.Text.Bytes
import LongSuffix.Text.Quoted

/-!
# Edits

An edit replaces a range of characters of one line by another text, after looking at what the
range holds: the text that is expected there, the new text already, or something else.
-/

namespace LongSuffix

/-- A replacement inside one line. Line and columns count from zero; `stop` is exclusive. -/
structure LineEdit where
  lineIndex : Nat
  start : Nat
  stop : Nat
  newText : List Char
  /-- What the range has to hold for the edit to be made. -/
  expected : List Char
  deriving DecidableEq

inductive EditError where
  | lineOutOfRange (line lineCount : Nat)
  | invalidColumnRange (line start stop lineLength : Nat)
  | beforeTextMismatch (line column : Nat) (expected found : List Char)
  deriving DecidableEq

def EditError.message : EditError → String
  | lineOutOfRange line count => s!"line {line} is outside content of {count} lines"
  | invalidColumnRange line start stop length =>
    s!"invalid column range [{start}, {stop}) on line {line} of length {length}"
  | beforeTextMismatch line column expected found =>
    s!"before-text verification failed at {line}:{column}: expected {Text.quoted expected}, found {Text.quoted found}"

/-- A line after an edit, and whether the edit changed it. -/
structure Patch where
  applied : Bool
  line : List Char
  deriving DecidableEq

/-- What an edit did to a document. Lines and columns count from one. -/
inductive EditResult where
  | applied (line column : Nat)
  | alreadyApplied (line : Nat)
  deriving DecidableEq

namespace LineEdit

/-- The suffix letter at a column, from lower to upper case. -/
def suffix (lineIndex column : Nat) : LineEdit :=
  ⟨lineIndex, column, column + 1, ['L'], ['l']⟩

/-- A whole token, from the text `before` to the text `after`. -/
def token (lineIndex start stop : Nat) (before after : List Char) : LineEdit :=
  ⟨lineIndex, start, stop, after, before⟩

/-- The characters of a line that the edit is about. -/
def target (e : LineEdit) (line : List Char) : List Char :=
  (line.take e.stop).drop e.start

/-- The line with the range replaced by the new text. -/
def patched (e : LineEdit) (line : List Char) : List Char :=
  line.take e.start ++ e.newText ++ line.drop e.stop

/-- The edit made on one line. The line is cut at the byte offsets of the range, which are on
character boundaries. -/
def applyToLine (e : LineEdit) (line : List Char) : Except EditError Patch :=
  match h : byteRange? line e.start e.stop with
  | none => .error (.invalidColumnRange (e.lineIndex + 1) e.start e.stop line.length)
  | some range =>
    let cut := (cutBytes line range.1 range.2).get (isSome_cutBytes h)
    if cut.inside = e.newText then .ok ⟨false, line⟩
    else if cut.inside = e.expected then .ok ⟨true, cut.before ++ e.newText ++ cut.after⟩
    else .error (.beforeTextMismatch (e.lineIndex + 1) (e.start + 1) e.expected cut.inside)

/-- In characters: the range is looked at, and replaced if it holds what is expected. -/
theorem applyToLine_eq (e : LineEdit) (line : List Char) :
    e.applyToLine line =
      if e.stop < e.start ∨ line.length < e.stop then
        .error (.invalidColumnRange (e.lineIndex + 1) e.start e.stop line.length)
      else if e.target line = e.newText then .ok ⟨false, line⟩
      else if e.target line = e.expected then .ok ⟨true, e.patched line⟩
      else .error (.beforeTextMismatch (e.lineIndex + 1) (e.start + 1) e.expected (e.target line)) := by
  have hrange := byteRange?_eq line e.start e.stop
  unfold applyToLine
  split
  · next h =>
    rw [h] at hrange
    split at hrange
    · next hbad => rw [if_pos hbad]
    · cases hrange
  · next range h =>
    rw [h] at hrange
    split at hrange
    · cases hrange
    · next hgood =>
      cases hrange
      rw [if_neg hgood]
      have hcut := cutBytes_take_drop (s := line) (show e.start ≤ e.stop by omega)
      simp only [hcut, Option.get_some]
      rfl

/-- The edit made on a document: what it did, and the document afterwards. A line that cannot be
put back because it holds a newline stays as it was. -/
def apply (e : LineEdit) (d : Document) : Except EditError (EditResult × Document) :=
  match d.line? e.lineIndex with
  | none => .error (.lineOutOfRange (e.lineIndex + 1) d.lineCount)
  | some line =>
    match e.applyToLine line with
    | .error err => .error err
    | .ok ⟨false, _⟩ => .ok (.alreadyApplied (e.lineIndex + 1), d)
    | .ok ⟨true, patched⟩ =>
      .ok (.applied (e.lineIndex + 1) (e.start + 1), (d.replaceLine e.lineIndex patched).getD d)

end LineEdit

end LongSuffix
