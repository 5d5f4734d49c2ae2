import LongSuffix.Java.Token

/-!
# Reading tokens

A reader takes tokens from the front of a list, or fails and takes none. Reading goes on as long as
tokens are taken, so repetition ends.
-/

namespace LongSuffix.Java

structure Input where
  tokens : List Token
  /-- Where the last token or comment of the text ends. -/
  finish : Place

abbrev Reader := StateT Input Option

namespace Reader

def peek? : Reader (Option Token) := return (← get).tokens.head?

/-- The first tokens, without taking them. -/
def ahead (n : Nat) : Reader (List Token) := return (← get).tokens.take n

/-- Takes one token that passes a test. -/
def accept (p : Token → Bool) : Reader Token := fun s =>
  match s.tokens with
  | t :: rest => if p t then some (t, ⟨rest, s.finish⟩) else none
  | [] => none

def fail {α : Type} : Reader α := fun _ => none

def require (b : Bool) : Reader Unit := if b then pure () else fail

/-- Reads as often as it succeeds. -/
def many {α : Type} (r : Reader α) (s : Input) : Option (List α × Input) :=
  match r s with
  | none => some ([], s)
  | some (a, s') =>
    if _ : s'.tokens.length < s.tokens.length then
      (many r s').map fun (as, s'') => (a :: as, s'')
    else some ([a], s')
termination_by s.tokens.length

/-- Starts with a value and reads on from it as often as it succeeds. -/
def iterate {α : Type} (step : α → Reader α) (a : α) (s : Input) : Option (α × Input) :=
  match step a s with
  | none => some (a, s)
  | some (b, s') =>
    if _ : s'.tokens.length < s.tokens.length then iterate step b s' else some (b, s')
termination_by s.tokens.length

def option {α : Type} (r : Reader (List α)) : Reader (List α) := r <|> pure []

def several {α : Type} (r : Reader (List α)) : Reader (List α) := do
  let parts ← (many r : Reader (List (List α)))
  return parts.flatten

/-- A single node as a list of nodes. -/
def single (r : Reader Tree) : Reader (List Tree) := return [← r]

/-! ## Leaves -/

def isMark (text : String) (t : Token) : Bool := t.kind == .mark && t.text == text

def isWord (text : String) (t : Token) : Bool := t.kind == .word && t.text == text

def mark (text : String) : Reader Tree := return (← accept (isMark text)).leaf

/-- A word with a meaning of its own at this place, whether it is reserved or not. -/
def keyword (text : String) : Reader Tree := return (← accept (isWord text)).leafAs text

def identifier : Reader Tree := return (← accept Token.isIdentifier).leaf

def nextIs (p : Token → Bool) : Reader Bool := return (← peek?).any p

def atMark (text : String) : Reader Bool := nextIs (isMark text)

def atWord (text : String) : Reader Bool := nextIs (isWord text)

/-! ## Nodes -/

/-- A node over the given children. -/
def build (kind : String) (children : List Tree) : Tree :=
  match children.head?, children.getLast? with
  | some first, some last => .node kind first.start last.stop false children
  | _, _ => .node kind default default false children

def node (kind : String) (r : Reader (List Tree)) : Reader Tree := return build kind (← r)

/-- One or more items with a separator between them. -/
def separated (sep : String) (item : Reader (List Tree)) : Reader (List Tree) := do
  let first ← item
  let more ← several do
    let s ← mark sep
    return s :: (← item)
  return first ++ more

/-- Items in brackets, separated by commas; there may be none. -/
def bracketed (left right : String) (item : Reader (List Tree)) : Reader (List Tree) := do
  let l ← mark left
  let items ← option (separated "," item)
  let r ← mark right
  return l :: items ++ [r]

end Reader

end LongSuffix.Java
