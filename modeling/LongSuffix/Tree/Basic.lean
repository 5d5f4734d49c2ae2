/-!
# Syntax trees

A node has a kind, the places where it starts and ends, a flag for errors, and children. A place is
given twice: as a byte offset, and as a row with a column of bytes.
-/

namespace LongSuffix

/-- A place between two characters of a source text, all counted from zero. -/
structure Place where
  byte : Nat
  row : Nat
  column : Nat
  deriving DecidableEq, Repr, Inhabited

/-- The place after a character. -/
def Place.after (p : Place) (c : Char) : Place :=
  if c = '\n' then ⟨p.byte + 1, p.row + 1, 0⟩
  else ⟨p.byte + c.utf8Size, p.row, p.column + c.utf8Size⟩

/-- The place after a text. -/
def Place.afterAll (p : Place) (cs : List Char) : Place := cs.foldl Place.after p

inductive Tree where
  /-- `flawed` marks what the parser made of text it could not read, and nodes it put in for text
  that is missing. -/
  | node (kind : String) (start stop : Place) (flawed : Bool) (children : List Tree)
  deriving Inhabited

namespace Tree

def kind : Tree → String
  | node kind _ _ _ _ => kind

def start : Tree → Place
  | node _ start _ _ _ => start

def stop : Tree → Place
  | node _ _ stop _ _ => stop

def flawed : Tree → Bool
  | node _ _ _ flawed _ => flawed

def children : Tree → List Tree
  | node _ _ _ _ children => children

theorem inductionOnChildren {P : Tree → Prop}
    (node : ∀ kind start stop flawed children, (∀ c ∈ children, P c) →
      P (.node kind start stop flawed children)) (t : Tree) : P t :=
  Tree.rec (motive_2 := fun ts => ∀ c ∈ ts, P c) node (fun _ h => absurd h List.not_mem_nil)
    (fun _ _ ht hts => List.forall_mem_cons.2 ⟨ht, hts⟩) t

mutual

/-- A node, then the nodes below it from left to right. -/
def preorder : Tree → List Tree
  | node kind start stop flawed children => node kind start stop flawed children :: preorderAll children

def preorderAll : List Tree → List Tree
  | [] => []
  | t :: rest => t.preorder ++ preorderAll rest

end

mutual

/-- The number of nodes. -/
def size : Tree → Nat
  | node _ _ _ _ children => 1 + sizeAll children

def sizeAll : List Tree → Nat
  | [] => 0
  | t :: rest => t.size + sizeAll rest

end

theorem size_eq (t : Tree) : t.size = 1 + sizeAll t.children := by
  cases t; simp [size, children]

end Tree

end LongSuffix
