import LongSuffix.Span

/-!
# Integer literals

A literal token is its kind, the text it is written with, and the span it takes up.
-/

namespace LongSuffix

inductive LiteralKind where
  | decimal
  | hex
  | octal
  | binary
  deriving DecidableEq, Repr

namespace LiteralKind

/-- The name of the kind's nodes in a syntax tree. -/
def nodeKind : LiteralKind → String
  | decimal => "decimal_integer_literal"
  | hex => "hex_integer_literal"
  | octal => "octal_integer_literal"
  | binary => "binary_integer_literal"

def ofNodeKind? (kind : String) : Option LiteralKind :=
  if kind = "decimal_integer_literal" then some .decimal
  else if kind = "hex_integer_literal" then some .hex
  else if kind = "octal_integer_literal" then some .octal
  else if kind = "binary_integer_literal" then some .binary
  else none

@[simp] theorem ofNodeKind?_nodeKind (k : LiteralKind) : ofNodeKind? k.nodeKind = some k := by
  cases k <;> simp [nodeKind, ofNodeKind?]

end LiteralKind

/-- The text in front of a lower case suffix letter. -/
def suffixStem? (text : List Char) : Option (List Char) :=
  if text.getLast? = some 'l' then some text.dropLast else none

/-- The text with a lower case suffix letter raised; no other letter is touched. -/
def upperSuffix? (text : List Char) : Option (List Char) :=
  (suffixStem? text).map (· ++ ['L'])

/-- Whether a text is one or more decimal digits and then the letter `l`. -/
def isLowercaseLong (text : List Char) : Bool :=
  match suffixStem? text with
  | some digits => !digits.isEmpty && digits.all Char.isDigit
  | none => false

structure Literal where
  kind : LiteralKind
  text : List Char
  span : Span
  deriving DecidableEq

namespace Literal

def isLowercaseLong (t : Literal) : Bool := LongSuffix.isLowercaseLong t.text

/-- The position of the last character, where a long literal has its suffix. -/
def suffixPosition (t : Literal) : Option Position := t.span.last

end Literal

end LongSuffix
