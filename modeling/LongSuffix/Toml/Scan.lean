import LongSuffix.Toml.Scalar

/-!
# Reading TOML text

Readers of characters. A reader takes characters from the front of the text or fails; what it takes
moves the offset.
-/

namespace LongSuffix.Toml

structure Input where
  rest : List Char
  offset : Nat

abbrev Scan := StateT Input Option

namespace Scan

def fail {α : Type} : Scan α := fun _ => none

def require (b : Bool) : Scan Unit := if b then pure () else fail

def peek? : Scan (Option Char) := return (← get).rest.head?

def offset : Scan Nat := return (← get).offset

def atEnd : Scan Bool := return (← get).rest.isEmpty

/-- Takes `n` characters. -/
def drop (n : Nat) : Scan Unit := fun s => some ((), ⟨s.rest.drop n, s.offset + n⟩)

/-- Whether a text comes next. -/
def looksAt (text : List Char) : Scan Bool := return text.isPrefixOf (← get).rest

def expect (text : String) : Scan Unit := do
  require (← looksAt text.toList)
  drop text.length

/-- Takes a character that passes a test. -/
def one (p : Char → Bool) : Scan Char := do
  let some c ← peek? | fail
  require (p c)
  drop 1
  return c

def takeWhile (p : Char → Bool) : Scan (List Char) := do
  let cs := (← get).rest.takeWhile p
  drop cs.length
  return cs

/-- Reads as often as it succeeds and takes something. -/
def many {α : Type} (r : Scan α) (s : Input) : Option (List α × Input) :=
  match r s with
  | none => some ([], s)
  | some (a, s') =>
    if _ : s'.rest.length < s.rest.length then
      (many r s').map fun (as, s'') => (a :: as, s'')
    else some ([], s)
termination_by s.rest.length

end Scan

open Scan

/-! ## Blanks and comments -/

def isBlank (c : Char) : Bool := c == ' ' || c == '\t'

def blanks : Scan Unit := do let _ ← takeWhile isBlank

def newline : Scan (List Char) :=
  (do expect "\r\n"; return ['\r', '\n']) <|> (do expect "\n"; return ['\n'])

/-- Characters that may stand for themselves in comments and strings. -/
def isPlain (c : Char) : Bool := c == '\t' || (0x20 ≤ c.toNat && c.toNat ≠ 0x7f)

def comment : Scan Unit := do
  expect "#"
  let _ ← takeWhile isPlain

/-- The end of a line, with a comment in front of it or not. -/
def lineEnd : Scan Unit := do
  blanks
  comment <|> pure ()
  if ← atEnd then pure () else do let _ ← newline

/-- Blanks, comments and newlines, inside brackets. -/
def filler : Scan Unit := do
  let _ ← (many (comment <|> (do let _ ← newline) <|> (do let _ ← one isBlank)) : Scan (List Unit))

/-! ## Strings -/

def escapes : List (Char × Char) :=
  [('b', '\x08'), ('t', '\t'), ('n', '\n'), ('f', '\x0c'), ('r', '\r'), ('e', '\x1b'), ('"', '"'),
   ('\\', '\\')]

/-- A character given by `n` digits in base sixteen. -/
def codePoint (n : Nat) : Scan Char := do
  let ds := (← get).rest.take n
  require (ds.length == n && ds.all (digitIn 16 · |>.isSome))
  let code := valueIn 16 ds
  require (code < 0xD800 || (0xE000 ≤ code && code < 0x110000))
  drop n
  return Char.ofNat code

def escape : Scan Char := do
  expect "\\"
  let c ← one fun _ => true
  match escapes.lookup c with
  | some d => return d
  | none =>
    match c with
    | 'x' => codePoint 2
    | 'u' => codePoint 4
    | 'U' => codePoint 8
    | _ => fail

/-- Characters of a string on one line. -/
def basicString : Scan (List Char) := do
  expect "\""
  let cs ← (many (one (fun c => isPlain c && c != '"' && c != '\\') <|> escape) : Scan (List Char))
  expect "\""
  return cs

def literalString : Scan (List Char) := do
  expect "'"
  let cs ← takeWhile fun c => isPlain c && c != '\x27'
  expect "'"
  return cs

/-- The number of quotes that come next. -/
def quotes (quote : Char) : Scan Nat := return ((← get).rest.takeWhile (· == quote)).length

/-- A backslash at the end of a line, with the blanks and newlines after it. -/
def lineJoin : Scan (List Char) := do
  expect "\\"
  blanks
  let _ ← newline
  let _ ← (many (do let _ ← newline <|> return [← one isBlank]) : Scan (List Unit))
  return []

/-- One or two quotes inside a string over several lines. -/
def fewQuotes (quote : Char) : Scan (List Char) := do
  let n ← quotes quote
  require (0 < n && n < 3)
  drop n
  return List.replicate n quote

/-- A string over several lines, between three quotes on each side. A newline right at the front
does not count; up to two quotes may stand in front of the closing ones. -/
def blockString (quote : Char) (piece : Scan (List Char)) : Scan (List Char) := do
  expect (String.ofList [quote, quote, quote])
  let _ ← newline <|> pure []
  let parts ← (many (piece <|> newline <|> fewQuotes quote) : Scan (List (List Char)))
  let n ← quotes quote
  require (3 ≤ n && n ≤ 5)
  drop n
  return parts.flatten ++ List.replicate (n - 3) quote

def basicBlock : Scan (List Char) :=
  blockString '"'
    ((do return [← one fun c => isPlain c && c != '"' && c != '\\']) <|> lineJoin
      <|> do return [← escape])

def literalBlock : Scan (List Char) :=
  blockString '\x27' do return [← one fun c => isPlain c && c != '\x27']

def string : Scan (List Char) := do
  if ← looksAt ['"', '"', '"'] then basicBlock
  else if ← looksAt ['\x27', '\x27', '\x27'] then literalBlock
  else basicString <|> literalString

/-! ## Keys -/

def isBare (c : Char) : Bool := c.isAlphanum || c == '_' || c == '-'

def key : Scan Key := do
  let start ← offset
  let text ← basicString <|> literalString <|> do
    let cs ← takeWhile isBare
    require !cs.isEmpty
    return cs
  return ⟨text, start⟩

/-- Keys with dots between them: the way to a table, and the key in it. -/
def path : Scan (List Key × Key) := do
  let first ← key
  let more ← (many (do
    blanks
    expect "."
    blanks
    key) : Scan (List Key))
  let all := first :: more
  return (all.dropLast, all.getLastD first)

/-! ## Values -/

def isWord (c : Char) : Bool := c.isAlphanum || "+-._:".toList.contains c

/-- Whether a blank and a time come next. -/
def timeFollows : Scan Bool := do
  match (← get).rest with
  | ' ' :: a :: b :: ':' :: _ => return isDigit a && isDigit b
  | _ => return false

def unquoted : Scan Scalar := do
  let word ← takeWhile isWord
  let date := (afterDate? word).any List.isEmpty
  let text ←
    if date && (← timeFollows) then do
      drop 1
      pure (word ++ ' ' :: (← takeWhile isWord))
    else pure word
  match scalar? text with
  | some s => return s
  | none => fail

/-- Items with commas between them and perhaps after the last, up to a closing bracket. -/
def listed {α : Type} (close : String) (item : Scan α) : Scan (List α) := do
  filler
  let items ← (many (do
    let a ← item
    filler
    (do expect ","; filler) <|> require (← looksAt close.toList)
    return a) : Scan (List α))
  expect close
  return items

/-- Puts entries into a table, one after the other. -/
def insertAll : List (List Key × Key × Item) → Table → Option Table
  | [], t => some t
  | (way, k, item) :: rest, t => do insertAll rest (← t.insert way k item)

/-- An entry of a table in braces. -/
def entry (inner : Scan Item) : Scan (List Key × Key × Item) := do
  let (way, k) ← path
  blanks
  expect "="
  blanks
  return (way, k, ← inner)

/-- A value, where `inner` reads the values inside brackets. -/
def valueOver (inner : Scan Item) : Scan Item := do
  let start ← offset
  let some c ← peek? | fail
  if c == '"' || c == '\x27' then return .scalar start (.text (← string))
  else if c == '[' then
    expect "["
    return .array start (← listed "]" inner)
  else if c == '\x7b' then
    expect "\x7b"
    let entries ← listed "\x7d" (entry inner)
    match insertAll entries ⟨start, .inline, []⟩ with
    | some table => return table.item
    | none => fail
  else return .scalar start (← unquoted)

/-- A value with at most `depth` brackets inside each other. -/
def value : (depth : Nat) → Scan Item
  | 0 => do
    require ((← peek?).all fun c => c != '[' && c != '\x7b')
    valueOver fail
  | depth + 1 => valueOver (value depth)

/-! ## Documents -/

/-- The most brackets inside each other that are read. -/
def deepest : Nat := 79

/-- A document while it is read: its table, and the way to the table that entries go into. -/
structure Draft where
  root : Table
  current : List Key

def keyValue (d : Draft) : Scan Draft := do
  let (way, k) ← path
  blanks
  expect "="
  blanks
  let item ← value deepest
  match d.root.modifyAt false (Table.insert way k item) d.current with
  | some root => return { d with root := root }
  | none => fail

def header (d : Draft) : Scan Draft := do
  let start ← offset
  let double ← looksAt ['[', '[']
  expect (if double then "[[" else "[")
  blanks
  let (way, k) ← path
  blanks
  expect (if double then "]]" else "]")
  match if double then d.root.push way k start else d.root.define way k start with
  | some root => return ⟨root, way ++ [k]⟩
  | none => fail

/-- One line, or more if a value goes over several. -/
def line (d : Draft) : Scan Draft := do
  blanks
  let d ← match ← peek? with
    | some '[' => header d
    | some c => if c == '#' || c == '\n' || c == '\r' then pure d else keyValue d
    | none => pure d
  lineEnd
  return d

/-- Reads lines up to the end of the text. -/
def lines (d : Draft) (s : Input) : Option Table :=
  match s.rest with
  | [] => some d.root
  | _ =>
    match line d s with
    | none => none
    | some (d', s') =>
      if _ : s'.rest.length < s.rest.length then lines d' s' else none
termination_by s.rest.length

/-- The document of a text, if it is one. A byte order mark at the front is skipped. -/
def parse (text : String) : Option Table :=
  let start : Draft := ⟨⟨0, .header, []⟩, []⟩
  match text.toList with
  | '\ufeff' :: rest => lines start ⟨rest, 1⟩
  | cs => lines start ⟨cs, 0⟩

end LongSuffix.Toml
