import LongSuffix.Java.Grammar.Declarations
import LongSuffix.Tree.Structure

/-!
# Syntax trees of Java

A source text is read as a sequence of declarations and statements. Comments do not take part; each
is put into the tree afterwards, where it stands. A text that cannot be read gives a tree with one
error that holds all its tokens.
-/

namespace LongSuffix.Java

/-! ## Comments -/

/-- Whether a comment stands inside a node, between its first token and its last, which may be one
without text. -/
def encloses (t comment : Tree) : Bool :=
  t.start.byte < comment.start.byte && comment.stop.byte ≤ t.stop.byte

mutual

/-- Puts a comment into a node, into the lowest one that encloses it. -/
def withComment (comment : Tree) : Tree → Tree
  | .node kind start stop flawed children =>
    .node kind start stop flawed (withCommentAmong comment children)

/-- Puts a comment among siblings, in the order of the text. -/
def withCommentAmong (comment : Tree) : List Tree → List Tree
  | [] => [comment]
  | t :: rest =>
    if encloses t comment then withComment comment t :: rest
    else if comment.start.byte < t.start.byte then comment :: t :: rest
    else t :: withCommentAmong comment rest

end

/-! ## Programs -/

/-- A depth that no text with the given number of tokens goes beyond: between two tokens at most
eight phrases start. -/
def depthFor (tokens : Nat) : Nat := 8 * tokens + 16

/-- The declarations and statements of a text, if it consists of nothing else. -/
def readProgram (tokens : List Token) (finish : Place) : Option (List Tree) := do
  let inner := Grammar.read (depthFor tokens.length)
  let (parts, rest) ← Reader.many (Grammar.topLevel inner) ⟨tokens, finish⟩
  if rest.tokens.isEmpty then some parts else none

/-- The syntax tree of a source text. -/
def parse (source : String) : Tree :=
  let all := tokens source.toList
  let stop := Place.afterAll ⟨0, 0, 0⟩ source.toList
  let program := Tree.node "program" ⟨0, 0, 0⟩ stop
  let finish := (all.getLast?.map Token.stop).getD ⟨0, 0, 0⟩
  match readProgram (all.filter (!·.isComment)) finish with
  | some parts =>
    let comments := (all.filter Token.isComment).map Token.leaf
    program false (comments.foldl (fun parts c => withCommentAmong c parts) parts)
  | none =>
    let leaves := all.map Token.leaf
    program false [match leaves.head?, leaves.getLast? with
      | some first, some last => .node "ERROR" first.start last.stop true leaves
      | _, _ => .node "ERROR" ⟨0, 0, 0⟩ stop true []]

/-- The syntax of Java, as far as fixing files needs it. -/
def analyzer : Analyzer := Analyzer.ofParser fun source => .ok (parse source)

end LongSuffix.Java
