import LongSuffix.Java.Lexeme
import LongSuffix.Tree.Basic

/-!
# Tokens

A token is a lexeme at its place. Blanks are dropped; comments are kept apart, since they may stand
between any two tokens.
-/

namespace LongSuffix.Java

structure Token where
  kind : LexemeKind
  text : String
  /-- Where the token or comment in front of it ends. -/
  lead : Place
  start : Place
  stop : Place

/-- The lexemes of a source text. A byte order mark at the very front is blank. -/
def sourceLexemes : List Char → List Lexeme
  | '\ufeff' :: rest => ⟨.blank, ['\ufeff']⟩ :: lexemes [] rest
  | cs => lexemes [] cs

/-- Gives each lexeme its place, the first one starting at `p` and following what ends at `lead`. -/
def placed (lead p : Place) : List Lexeme → List Token
  | [] => []
  | l :: rest =>
    let q := p.afterAll l.text
    ⟨l.kind, String.ofList l.text, lead, p, q⟩ :: placed (if l.kind = .blank then lead else q) q rest

def Token.isComment (t : Token) : Bool := t.kind == .lineComment || t.kind == .blockComment

/-- The tokens of a source text, comments among them. -/
def tokens (source : List Char) : List Token :=
  (placed ⟨0, 0, 0⟩ ⟨0, 0, 0⟩ (sourceLexemes source)).filter (·.kind != .blank)

/-- Words that are no identifiers. -/
def reservedWords : List String :=
  ["abstract", "assert", "boolean", "break", "byte", "case", "catch", "char", "class", "const",
   "continue", "default", "do", "double", "else", "enum", "extends", "final", "finally", "float",
   "for", "goto", "if", "implements", "import", "instanceof", "int", "interface", "long", "native",
   "new", "package", "private", "protected", "public", "return", "short", "static", "strictfp",
   "super", "switch", "synchronized", "this", "throw", "throws", "transient", "try", "void",
   "volatile", "while", "true", "false", "null"]

def Token.isIdentifier (t : Token) : Bool := t.kind == .word && !reservedWords.contains t.text

/-- The kind of the node that a token is in a tree: its own name for what has one, else its
text. -/
def Token.nodeKind (t : Token) : String :=
  match t.kind with
  | .number (.integer kind) => kind.nodeKind
  | .number .decimalFloat => "decimal_floating_point_literal"
  | .number .hexFloat => "hex_floating_point_literal"
  | .character => "character_literal"
  | .lineComment => "line_comment"
  | .blockComment => "block_comment"
  | .fragment => "string_fragment"
  | .blockFragment => "multiline_string_fragment"
  | .escape => "escape_sequence"
  | .word =>
    if t.text == "null" then "null_literal"
    else if reservedWords.contains t.text then t.text
    else "identifier"
  | _ => t.text

/-- A token as a node without children. -/
def Token.leafAs (kind : String) (t : Token) : Tree := .node kind t.start t.stop false []

def Token.leaf (t : Token) : Tree := t.leafAs t.nodeKind

end LongSuffix.Java
