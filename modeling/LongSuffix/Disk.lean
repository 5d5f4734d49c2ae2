import LongSuffix.Host

/-!
# Directory trees

The files and directories below a working directory. Paths are followed name by name, and what
stands in the way is told as a file system does.
-/

namespace LongSuffix

inductive Entry where
  | file (bytes : ByteArray)
  | directory

/-- The names that lead from the working directory to an entry. -/
abbrev Route := List (List Char)

structure Disk where
  entries : List (Route × Entry)

namespace Disk

def entry? (d : Disk) : Route → Option Entry
  | [] => some .directory
  | route => (d.entries.find? (·.1 == route)).map (·.2)

/-- Makes a directory and those above it, where they are missing. -/
def makeDirectory (d : Disk) (route : Route) : Disk :=
  (List.range route.length).foldl
    (fun d n =>
      let above := route.take (n + 1)
      if (d.entry? above).isSome then d else ⟨d.entries ++ [(above, .directory)]⟩)
    d

def put (d : Disk) (route : Route) (bytes : ByteArray) : Disk :=
  ⟨d.entries.filter (·.1 != route) ++ [(route, .file bytes)]⟩

/-- Makes a file, and the directories above it. -/
def makeFile (d : Disk) (route : Route) (bytes : ByteArray) : Disk :=
  (d.makeDirectory route.dropLast).put route bytes

/-- The files with their paths. -/
def files (d : Disk) : List (Path × ByteArray) :=
  d.entries.filterMap fun
    | (route, .file bytes) => some (⟨String.ofList (Path.joinPieces route)⟩, bytes)
    | (_, .directory) => none

/-! ## Following paths -/

/-- Where a path has led so far. -/
inductive Spot where
  /-- A directory below the working directory. -/
  | inside (route : Route)
  /-- A directory that is not below the working directory; nothing is known of it. -/
  | outside

/-- Where a path leads to. -/
inductive Target where
  | directory (spot : Spot)
  | file (route : Route) (bytes : ByteArray)
  /-- Nothing is there yet; the directory it would be in is. -/
  | vacant (route : Route)

/-- Goes from a directory along the rest of a path. -/
def follow (d : Disk) : Spot → List (List Char) → Except Fault Target
  | spot, [] => .ok (.directory spot)
  | spot, piece :: rest =>
    if Path.isIdle piece then follow d spot rest
    else
      match spot with
      | .outside => if piece = ['.', '.'] then follow d .outside rest else .error .notFound
      | .inside route =>
        if piece = ['.', '.'] then
          follow d (if route.isEmpty then .outside else .inside route.dropLast) rest
        else
          let next := route ++ [piece]
          match d.entry? next with
          | some .directory => follow d (.inside next) rest
          | some (.file bytes) =>
            if rest.isEmpty then .ok (.file next bytes) else .error .notADirectory
          | none => if rest.isEmpty then .ok (.vacant next) else .error .notFound

/-- What a path names. The empty path names nothing. -/
def lookup (d : Disk) (p : Path) : Except Fault Target :=
  if p.text.isEmpty then .error .notFound
  else d.follow (if p.isAbsolute then .outside else .inside []) (Path.pieces p.text.toList)

/-! ## Reading and writing -/

def read (d : Disk) (p : Path) : Except Fault String := do
  match ← d.lookup p with
  | .directory _ => .error .isADirectory
  | .vacant _ => .error .notFound
  | .file _ bytes =>
    match String.fromUTF8? bytes with
    | some text => .ok text
    | none => .error .invalidText

/-- The directory that a path is written into. -/
def parentOf (p : Path) : Except Fault Path :=
  match p.parent? with
  | none => .error .noParent
  | some q => .ok (if q.text.isEmpty then ⟨"."⟩ else q)

/-- The last piece of a path. -/
def lastPiece (p : Path) : List Char := (Path.pieces p.text.toList).getLastD []

/-- Whether a path ends in `.` or `..`. -/
def endsInDots (p : Path) : Bool := lastPiece p == ['.'] || lastPiece p == ['.', '.']

/-- Writes a file: first beside it in its directory, and then it takes the place of the old one. -/
def write (d : Disk) (p : Path) (bytes : ByteArray) : Except Fault Disk := do
  match ← d.lookup (← parentOf p) with
  | .file _ _ => .error .notADirectory
  | .vacant _ => .error .notFound
  | .directory _ =>
    if endsInDots p then .error .busy
    else if (lastPiece p).isEmpty then .error .notADirectory
    else
      match ← d.lookup p with
      | .directory _ => .error .isADirectory
      | .file route _ | .vacant route => .ok (d.put route bytes)

def medium : Medium Disk where
  read := read
  write d p text := d.write p text.toUTF8

/-! ## Walking -/

/-- The files at and below a path, each under the path that it is found by. -/
def walk (d : Disk) (p : Path) : Except Fault (List Path) := do
  match ← d.lookup p with
  | .vacant _ => .error .notFound
  | .file _ _ => .ok [p]
  | .directory .outside => .ok []
  | .directory (.inside route) =>
    .ok (d.entries.filterMap fun (r, e) =>
      match e with
      | .directory => none
      | .file _ =>
        if route.isPrefixOf r then
          some (p.join ⟨String.ofList (Path.joinPieces (r.drop route.length))⟩)
        else none)

/-- The host whose files are the state. -/
def host : Host (StateM Disk) where
  store := medium.store
  walk p := fun d =>
    match d.walk p with
    | .ok paths => (paths.map .ok, d)
    | .error fault => ([.error (p, fault)], d)

end Disk

end LongSuffix
