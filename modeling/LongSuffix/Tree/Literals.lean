import LongSuffix.Tree.Basic
import LongSuffix.Literal
import LongSuffix.Text.Bytes

/-!
# Literals of a tree

The integer literals of a source text are the nodes of its syntax tree with a literal kind, in
document order. Their places, which count bytes, are turned into positions, which count characters.
-/

namespace LongSuffix

/-- Why a source text cannot be read as a tree, or two trees do not have the same structure. -/
inductive SyntaxFault where
  | unparsable
  | invalidSpan (byte : Nat)
  | syntaxError (start stop : Nat)
  | multipleSyntaxErrors (count : Nat)
  | structureChanged (before after : Nat)
  | nodeKindChanged (index : Nat) (before after : String)
  deriving DecidableEq

def SyntaxFault.message : SyntaxFault → String
  | unparsable => "failed to parse source code"
  | invalidSpan byte => s!"literal token at byte {byte} has an invalid span"
  | syntaxError start stop => s!"syntax error detected at byte {start}..{stop}"
  | multipleSyntaxErrors count => s!"multiple syntax errors detected: {count} ERROR nodes"
  | structureChanged before after =>
    s!"rewrite changed document structure: {before} nodes before, {after} after"
  | nodeKindChanged index before after =>
    s!"rewrite changed node kind at position {index}: {before} -> {after}"

/-! ## Rows -/

/-- The pieces of a text between its newlines. -/
def splitRows : List Char → List (List Char)
  | [] => [[]]
  | c :: rest =>
    if c = '\n' then [] :: splitRows rest
    else
      match splitRows rest with
      | [] => [[c]]
      | row :: more => (c :: row) :: more

/-- The position of a place in a text that was split into rows. -/
def positionAt? (rows : List (List Char)) (p : Place) : Option Position := do
  let row ← rows[p.row]?
  let n ← charsInBytes row p.column
  return ⟨p.row + 1, n + 1, by omega, by omega⟩

/-- The literal of a node of a literal kind. -/
def literalAt (source : List Char) (rows : List (List Char)) (kind : LiteralKind)
    (start stop : Place) : Except SyntaxFault Literal :=
  match positionAt? rows start, positionAt? rows stop, sliceBytes source start.byte stop.byte with
  | some p, some q, some text =>
    match Span.of p q with
    | .ok span => .ok ⟨kind, text, span⟩
    | .error _ => .error (.invalidSpan start.byte)
  | _, _, _ => .error (.invalidSpan start.byte)

mutual

/-- The literals at and below a node. There are none below a literal. -/
def Tree.collectLiterals (source : List Char) (rows : List (List Char)) :
    Tree → Except SyntaxFault (List Literal)
  | .node kind start stop _ children =>
    match LiteralKind.ofNodeKind? kind with
    | some kind => (literalAt source rows kind start stop).map ([·])
    | none => collectLiteralsAll source rows children

def Tree.collectLiteralsAll (source : List Char) (rows : List (List Char)) :
    List Tree → Except SyntaxFault (List Literal)
  | [] => .ok []
  | t :: rest => do
    let here ← t.collectLiterals source rows
    let more ← collectLiteralsAll source rows rest
    return here ++ more

end

/-- The integer literals of a source text with a given tree. -/
def Tree.literals (source : String) (t : Tree) : Except SyntaxFault (List Literal) :=
  t.collectLiterals source.toList (splitRows source.toList)

end LongSuffix
