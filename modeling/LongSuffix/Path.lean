/-!
# Paths

A path is kept as it was written. Two spellings name the same path if they have the same
components: repeated and trailing slashes do not count, nor does `.` anywhere but at the front.
-/

namespace LongSuffix

inductive Component where
  | root
  /-- `.` at the front of a path. -/
  | here
  /-- `..`. -/
  | up
  | name (text : List Char)
  deriving DecidableEq

namespace Component

def text : Component → String
  | root => "/"
  | here => "."
  | up => ".."
  | name text => String.ofList text

/-- Numbers that compare as components do: the root first, then `.`, `..`, and names by their
characters. -/
def key : Component → List Nat
  | root => [0]
  | here => [1]
  | up => [2]
  | name text => 3 :: text.map Char.toNat

end Component

structure Path where
  text : String
  deriving DecidableEq

namespace Path

/-- The parts of a text between slashes. -/
def pieces : List Char → List (List Char)
  | [] => [[]]
  | c :: rest =>
    if c = '/' then [] :: pieces rest
    else
      match pieces rest with
      | [] => [[c]]
      | piece :: more => (c :: piece) :: more

/-- Whether a piece that is not the first one of its path counts for nothing. -/
def isIdle (piece : List Char) : Bool := piece.isEmpty || piece == ['.']

def isAbsolute (p : Path) : Bool := p.text.toList.head? == some '/'

/-- What a piece that counts stands for. -/
def component (piece : List Char) : Component := if piece = ['.', '.'] then .up else .name piece

def components (p : Path) : List Component :=
  match pieces p.text.toList with
  | [] => []
  | first :: rest =>
    let front : List Component :=
      if p.isAbsolute then [.root]
      else if first = [] then []
      else if first = ['.'] then [.here]
      else [component first]
    front ++ (rest.filter (!isIdle ·)).map component

/-- Paths compare by their components. -/
def key (p : Path) : List (List Nat) := p.components.map Component.key

def sameAs (p q : Path) : Bool := p.components == q.components

def before (p q : Path) : Bool := decide (p.key < q.key)

/-- The path with another one below it. An absolute one stands for itself. -/
def join (p q : Path) : Path :=
  if q.isAbsolute then q
  else if p.text.isEmpty || p.text.toList.getLast? == some '/' then ⟨p.text ++ q.text⟩
  else ⟨p.text ++ "/" ++ q.text⟩

/-- Pieces joined by slashes. -/
def joinPieces (pieces : List (List Char)) : List Char := ['/'].intercalate pieces

/-- The first piece, and those after it up to the last one that counts. -/
def trimPieces : List (List Char) → List (List Char)
  | [] => []
  | first :: rest => first :: (rest.reverse.dropWhile isIdle).reverse

/-- The path without its last component. The root and the empty path have none. -/
def parent? (p : Path) : Option Path :=
  match trimPieces (pieces p.text.toList) with
  | [] | [[]] => none
  | [_] => some ⟨""⟩
  | kept =>
    match trimPieces kept.dropLast with
    | [[]] => some ⟨"/"⟩
    | rest => some ⟨String.ofList (joinPieces rest)⟩

/-- The last component, if it is a name. -/
def fileName? (p : Path) : Option (List Char) :=
  match p.components.getLast? with
  | some (.name text) => some text
  | _ => none

/-- What follows the last point of the name, unless only that point is in front of it. -/
def extension? (p : Path) : Option (List Char) := do
  let name ← p.fileName?
  let ending := (name.reverse.takeWhile (· != '.')).reverse
  if ending.length + 1 < name.length then some ending else none

end Path

end LongSuffix
