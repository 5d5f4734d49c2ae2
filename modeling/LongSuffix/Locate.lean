import LongSuffix.Edit
import LongSuffix.Literal

/-!
# Locating what a position addresses

A locator turns a position into an edit, or says why there is none. By coordinate it looks at the
text around the position; by range it looks for a literal token that ends there.
-/

namespace LongSuffix

/-- Why a position addresses no character. -/
inductive AddressError where
  | lineOutOfRange (line lineCount : Nat)
  | columnOutOfRange (line column lineLength : Nat)
  deriving DecidableEq

def AddressError.message : AddressError → String
  | lineOutOfRange line count => s!"line {line} is outside content of {count} lines"
  | columnOutOfRange line column length =>
    s!"column {column} is outside line {line} of length {length}"

/-- Why a token is left alone although a position addresses it. -/
inductive Unsupported where
  | multiLine (span : Span)
  deriving DecidableEq

def Unsupported.message : Unsupported → String
  | multiLine span => s!"literal spans multiple lines ({span.text})"

inductive Located where
  | edit (e : LineEdit)
  | outOfBounds (e : AddressError)
  /-- The character at the position is no suffix to be raised. -/
  | noMatch (found : Char)
  | unsupported (reason : Unsupported)
  deriving DecidableEq

/-- The line and the character at a position. -/
def resolve (d : Document) (p : Position) : Except AddressError (List Char × Char) :=
  match d.line? p.lineIndex with
  | none => .error (.lineOutOfRange p.line d.lineCount)
  | some text =>
    match text[p.columnIndex]? with
    | none => .error (.columnOutOfRange p.line p.column text.length)
    | some found => .ok (text, found)

/-! ## By coordinate -/

/-- Characters of the words that numbers are looked for in. -/
def isWordChar (c : Char) : Bool := c.isAlphanum || c == '_'

/-- The longest run of word characters just before a column. -/
def wordBefore (line : List Char) (column : Nat) : List Char :=
  ((line.take column).reverse.takeWhile isWordChar).reverse

/-- Whether the word that ends just before a column starts with a digit. -/
def endsNumber (line : List Char) (column : Nat) : Bool :=
  match wordBefore line column with
  | c :: _ => c.isDigit
  | [] => false

def locateByCoordinate (d : Document) (p : Position) : Located :=
  match resolve d p with
  | .error e => .outOfBounds e
  | .ok (line, found) =>
    if found = 'l' ∧ endsNumber line p.columnIndex then
      .edit (.suffix p.lineIndex p.columnIndex)
    else .noMatch found

/-! ## By range -/

/-- What the reported positions do to one token. -/
inductive Correction where
  /-- A position addresses the suffix; the text is the new one. -/
  | corrected (position : Position) (text : List Char)
  | unchanged
  | unsupported (reason : Unsupported)
  deriving DecidableEq

/-- What one position does to the token: none, if the column is not the token's last or the line is
another. A token over several lines is refused on its first and its last line. -/
def Literal.correctAt (t : Literal) (p : Position) : Correction :=
  if t.isLowercaseLong ∧ t.span.lastColumn = some p.column then
    if t.span.isSingleLine then
      if p.line = t.span.start.line then
        match upperSuffix? t.text with
        | some text => .corrected p text
        | none => .unchanged
      else .unchanged
    else if p.line = t.span.start.line ∨ p.line = t.span.stop.line then
      .unsupported (.multiLine t.span)
    else .unchanged
  else .unchanged

/-- What the first of the positions that touches the token does to it. -/
def Literal.correct (t : Literal) : List Position → Correction
  | [] => .unchanged
  | p :: rest =>
    match t.correctAt p with
    | .unchanged => t.correct rest
    | other => other

/-- The first token that the position touches decides. -/
def locateInTokens (p : Position) (found : Char) : List Literal → Located
  | [] => .noMatch found
  | t :: rest =>
    match t.correctAt p with
    | .unchanged => locateInTokens p found rest
    | .unsupported reason => .unsupported reason
    | .corrected _ text =>
      .edit (.token t.span.start.lineIndex t.span.start.columnIndex t.span.stop.columnIndex t.text text)

def locateByRange (tokens : List Literal) (d : Document) (p : Position) : Located :=
  match resolve d p with
  | .error e => .outOfBounds e
  | .ok (_, found) => locateInTokens p found tokens

/-! ## Locators -/

inductive Strategy where
  | coordinate
  | range
  deriving DecidableEq, Repr

def Strategy.name : Strategy → String
  | coordinate => "coordinate"
  | range => "range"

inductive Locator where
  | coordinate
  | range (tokens : List Literal)

namespace Locator

def strategy : Locator → Strategy
  | coordinate => .coordinate
  | range _ => .range

def locate : Locator → Document → Position → Located
  | coordinate => locateByCoordinate
  | range tokens => locateByRange tokens

end Locator

end LongSuffix
