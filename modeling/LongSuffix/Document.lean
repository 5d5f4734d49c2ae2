/-!
# Documents

A document is a text cut into lines, each with the terminator that followed it. Rendering the
lines of a text gives the text back, whatever its terminators.
-/

namespace LongSuffix

/-- What follows the text of a line. -/
inductive Ending where
  | lf
  | crlf
  /-- Nothing: the text ends here. -/
  | none
  deriving DecidableEq, Repr

def Ending.chars : Ending → List Char
  | lf => ['\n']
  | crlf => ['\r', '\n']
  | none => []

structure Line where
  text : List Char
  ending : Ending
  deriving DecidableEq, Repr

namespace Line

def chars (l : Line) : List Char := l.text ++ l.ending.chars

end Line

structure Document where
  lines : List Line
  deriving DecidableEq, Repr

namespace Document

/-- The lines of a text. A newline ends a line, and a carriage return just before it belongs to
the terminator; what is left at the end is a line without terminator. -/
def linesOf : List Char → List Line
  | [] => []
  | '\n' :: rest => ⟨[], .lf⟩ :: linesOf rest
  | '\r' :: '\n' :: rest => ⟨[], .crlf⟩ :: linesOf rest
  | c :: rest =>
    match linesOf rest with
    | [] => [⟨[c], .none⟩]
    | line :: more => ⟨c :: line.text, line.ending⟩ :: more

def parse (text : String) : Document := ⟨linesOf text.toList⟩

/-- The document of given lines, joined by newlines and with none at the end. -/
def ofLines : List (List Char) → Document
  | [] => ⟨[]⟩
  | [text] => ⟨[⟨text, .none⟩]⟩
  | text :: rest => ⟨⟨text, .lf⟩ :: (ofLines rest).lines⟩

def chars (d : Document) : List Char := d.lines.flatMap Line.chars

def render (d : Document) : String := String.ofList d.chars

def lineCount (d : Document) : Nat := d.lines.length

/-- The text of a line, counted from zero, without its terminator. -/
def line? (d : Document) (index : Nat) : Option (List Char) := (d.lines[index]?).map Line.text

def ending? (d : Document) (index : Nat) : Option Ending := (d.lines[index]?).map Line.ending

/-- The character at a line and a column, both counted from zero. -/
def char? (d : Document) (line column : Nat) : Option Char := (d.line? line).bind (·[column]?)

/-- Puts another text into a line and keeps its terminator. A text with a newline in it would be
more than one line and is refused. -/
def replaceLine (d : Document) (index : Nat) (text : List Char) : Option Document :=
  if text.contains '\n' then none
  else (d.lines[index]?).map fun line => ⟨d.lines.set index ⟨text, line.ending⟩⟩

/-! ## Rendering the lines of a text -/

theorem linesOf_eq_nil {s : List Char} (h : linesOf s = []) : s = [] := by
  unfold linesOf at h
  split at h
  · rfl
  · simp at h
  · simp at h
  · split at h <;> simp at h

theorem flatMap_chars_linesOf (s : List Char) : (linesOf s).flatMap Line.chars = s := by
  fun_induction linesOf s with
  | case1 => rfl
  | case2 rest ih => simp [Line.chars, Ending.chars, ih]
  | case3 rest ih => simp [Line.chars, Ending.chars, ih]
  | case4 c rest _ _ h ih => rw [h] at ih; simp [Line.chars, Ending.chars, linesOf_eq_nil h]
  | case5 c rest _ _ line more h ih => rw [h] at ih; simpa [Line.chars] using ih

@[simp] theorem render_parse (text : String) : (parse text).render = text := by
  simp [render, chars, parse, flatMap_chars_linesOf]

end Document

end LongSuffix
