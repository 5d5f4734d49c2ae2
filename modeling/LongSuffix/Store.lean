import LongSuffix.Path

/-!
# Stores

A store is where texts are loaded from and written back to. Writing replaces the whole text or
fails and leaves everything as it was.
-/

namespace LongSuffix

/-- Why a store cannot load or write. -/
inductive Fault where
  | notFound
  | isADirectory
  | notADirectory
  | busy
  /-- The path has no directory to write into. -/
  | noParent
  /-- The bytes are no text. -/
  | invalidText
  /-- A reason of the store's own. -/
  | refused (reason : String)
  deriving DecidableEq

def Fault.message : Fault → String
  | notFound => "No such file or directory (os error 2)"
  | isADirectory => "Is a directory (os error 21)"
  | notADirectory => "Not a directory (os error 20)"
  | busy => "Device or resource busy (os error 16)"
  | noParent => "Path has no parent directory"
  | invalidText => "stream did not contain valid UTF-8"
  | refused reason => reason

/-- A store that is used inside `m`. -/
structure Store (m : Type → Type) where
  load : Path → m (Except Fault String)
  persist : Path → String → m (Except Fault Unit)

/-- A store as a value: loading only looks at it, and writing gives the next one or fails. -/
structure Medium (σ : Type) where
  read : σ → Path → Except Fault String
  write : σ → Path → String → Except Fault σ

/-- The store whose contents are the state. -/
def Medium.store {σ : Type} (medium : Medium σ) : Store (StateM σ) where
  load path := fun s => (medium.read s path, s)
  persist path text := fun s =>
    match medium.write s path text with
    | .ok s' => (.ok (), s')
    | .error fault => (.error fault, s)

/-! ## Texts in memory -/

/-- Texts by path, in the order of the paths. Some paths may refuse to be loaded or written. -/
structure Memory where
  files : List (Path × String)
  unreadable : List Path
  readOnly : List Path
  /-- The paths that were written, in order. -/
  written : List Path

namespace Memory

/-- Puts a text under a path. A path that is there already keeps its spelling. -/
def place (path : Path) (text : String) : List (Path × String) → List (Path × String)
  | [] => [(path, text)]
  | (q, old) :: rest =>
    if path.sameAs q then (q, text) :: rest
    else if path.before q then (path, text) :: (q, old) :: rest
    else (q, old) :: place path text rest

def get? (m : Memory) (path : Path) : Option String :=
  (m.files.find? (path.sameAs ·.1)).map (·.2)

def medium : Medium Memory where
  read m path :=
    if m.unreadable.any path.sameAs then .error (.refused "unreadable")
    else
      match m.get? path with
      | some text => .ok text
      | none => .error .notFound
  write m path text :=
    if m.readOnly.any path.sameAs then .error (.refused "read-only")
    else .ok { m with files := place path text m.files, written := m.written ++ [path] }

end Memory

end LongSuffix
