import LongSuffix.Decimal.Shortest
import LongSuffix.Text.Numeral

/-!
# Tokens of JSON

A text is cut into tokens up to the first place where that fails. The failure is a token itself, so
that what comes before it is still read.
-/

namespace LongSuffix.Json

/-- A number, as exactly as it is read. -/
inductive Number where
  | natural (n : Nat)
  /-- A negative integer of 64 bits. -/
  | negative (n : Int)
  | decimal (negative : Bool) (value : Decimal)
  deriving DecidableEq

inductive Token where
  | openObject
  | closeObject
  | openArray
  | closeArray
  | comma
  | colon
  | null
  | boolean (b : Bool)
  | number (n : Number)
  /-- A string; none, if its escapes leave half of a pair of surrogates. -/
  | text (s : Option (List Char))
  | malformed
  deriving DecidableEq

/-! ## Numbers -/

def isDigit (c : Char) : Bool := '0' ≤ c && c ≤ '9'

/-- Takes up digits while the number stays below `2 ^ 64`: the number, and how many digits were
taken. -/
def takeUp (n taken : Nat) : List Char → Nat × Nat
  | [] => (n, taken)
  | c :: rest =>
    let next := n * 10 + Text.digitValue c
    if next < Text.wordBound then takeUp next (taken + 1) rest else (n, taken)

/-- The parts of a number: sign, digits before the point, digits after it, exponent. -/
structure NumberText where
  negative : Bool
  whole : List Char
  fraction : Option (List Char)
  exponent : Option Int

/-- A number with as many of its leading digits as fit into 64 bits. -/
def NumberText.value (t : NumberText) : Number :=
  let (n, taken) := takeUp 0 0 t.whole
  let dropped := t.whole.length - taken
  let (m, places) := takeUp n 0 (t.fraction.getD [])
  let plain := dropped = 0 ∧ t.fraction.isNone ∧ t.exponent.isNone
  if plain ∧ !t.negative then .natural n
  else if plain ∧ 0 < n ∧ n ≤ 0x8000000000000000 then .negative (-n)
  else .decimal t.negative ⟨m, dropped - places + t.exponent.getD 0⟩

/-- The digits at the front, at least one. -/
def digits? (cs : List Char) : Option (List Char × List Char) :=
  match cs.takeWhile isDigit with
  | [] => none
  | ds => some (ds, cs.drop ds.length)

/-- No digit may follow a zero at the front. -/
def whole? (cs : List Char) : Option (List Char × List Char) := do
  let (ds, rest) ← digits? cs
  if ds.head? = some '0' ∧ 1 < ds.length then none else some (ds, rest)

def fraction? : List Char → Option (Option (List Char) × List Char)
  | '.' :: rest => (digits? rest).map fun (ds, rest) => (some ds, rest)
  | cs => some (none, cs)

/-- Whether a minus is at the front, and what follows the sign there. -/
def sign : List Char → Bool × List Char
  | '-' :: rest => (true, rest)
  | '+' :: rest => (false, rest)
  | rest => (false, rest)

def exponent? : List Char → Option (Option Int × List Char)
  | c :: rest =>
    if c == 'e' || c == 'E' then
      (digits? (sign rest).2).map fun (ds, after) =>
        let n : Int := Text.decimalValue ds
        (some (if (sign rest).1 then -n else n), after)
    else some (none, c :: rest)
  | [] => some (none, [])

/-- Whether a number is negative, and what follows its minus. A plus is no sign of a number. -/
def minus : List Char → Bool × List Char
  | '-' :: rest => (true, rest)
  | cs => (false, cs)

/-- The number at the front. -/
def number? (cs : List Char) : Option (Number × List Char) := do
  let (whole, rest) ← whole? (minus cs).2
  let (fraction, rest) ← fraction? rest
  let (exponent, rest) ← exponent? rest
  return (NumberText.value ⟨(minus cs).1, whole, fraction, exponent⟩, rest)

/-! ## Strings -/

def hexValue? (c : Char) : Option Nat :=
  if isDigit c then some (c.toNat - '0'.toNat)
  else if 'a' ≤ c && c ≤ 'f' then some (c.toNat - 'a'.toNat + 10)
  else if 'A' ≤ c && c ≤ 'F' then some (c.toNat - 'A'.toNat + 10)
  else none

/-- What a string is made of: characters, and code units that are written as four digits. -/
inductive Piece where
  | char (c : Char)
  | unit (n : Nat)

def simpleEscape? : Char → Option Char
  | '"' => some '"'
  | '\\' => some '\\'
  | '/' => some '/'
  | 'b' => some '\x08'
  | 'f' => some '\x0c'
  | 'n' => some '\n'
  | 'r' => some '\r'
  | 't' => some '\t'
  | _ => none

/-- The pieces of a string after its opening quote, and what follows the closing one. -/
def pieces? : List Char → Option (List Piece × List Char)
  | [] => none
  | '"' :: rest => some ([], rest)
  | '\\' :: 'u' :: a :: b :: c :: d :: rest => do
    let n := (((← hexValue? a) * 16 + (← hexValue? b)) * 16 + (← hexValue? c)) * 16 + (← hexValue? d)
    let (more, rest) ← pieces? rest
    return (.unit n :: more, rest)
  | '\\' :: c :: rest => do
    let e ← simpleEscape? c
    let (more, rest) ← pieces? rest
    return (.char e :: more, rest)
  | c :: rest =>
    if c.toNat < 0x20 || c == '\\' then none
    else (pieces? rest).map fun (more, rest) => (.char c :: more, rest)

def isHigh (n : Nat) : Bool := 0xD800 ≤ n && n < 0xDC00

def isLow (n : Nat) : Bool := 0xDC00 ≤ n && n < 0xE000

/-- The characters of a string, where two surrogates next to each other make one. -/
def assemble : List Piece → Option (List Char)
  | [] => some []
  | .char c :: rest => (assemble rest).map (c :: ·)
  | .unit m :: .unit n :: rest =>
    if isHigh m then
      if isLow n then
        (assemble rest).map (Char.ofNat ((m - 0xD800) * 0x400 + (n - 0xDC00) + 0x10000) :: ·)
      else none
    else if isLow m then none
    else (assemble (.unit n :: rest)).map (Char.ofNat m :: ·)
  | .unit m :: rest =>
    if isHigh m || isLow m then none else (assemble rest).map (Char.ofNat m :: ·)

/-! ## Tokens -/

def isBlank (c : Char) : Bool := c == ' ' || c == '\n' || c == '\t' || c == '\r'

def mark? : Char → Option Token
  | '\x7b' => some .openObject
  | '\x7d' => some .closeObject
  | '[' => some .openArray
  | ']' => some .closeArray
  | ',' => some .comma
  | ':' => some .colon
  | _ => none

def words : List (List Char × Token) :=
  [("null".toList, .null), ("true".toList, .boolean true), ("false".toList, .boolean false)]

/-- The word at the front. -/
def word? (cs : List Char) : Option (Token × List Char) :=
  (words.find? (·.1.isPrefixOf cs)).map fun (w, t) => (t, cs.drop w.length)

/-- The token at the front of a text without a blank there. -/
def token? (cs : List Char) : Option (Token × List Char) :=
  match cs with
  | [] => none
  | '"' :: rest => (pieces? rest).map fun (ps, rest) => (.text (assemble ps), rest)
  | c :: rest =>
    match mark? c with
    | some t => some (t, rest)
    | none =>
      if c == '-' || isDigit c then (number? cs).map fun (n, rest) => (.number n, rest)
      else word? cs

/-- The tokens of a text. -/
def tokens (cs : List Char) : List Token :=
  match cs with
  | [] => []
  | c :: rest =>
    if isBlank c then tokens rest
    else
      match token? (c :: rest) with
      | none => [.malformed]
      | some (t, after) =>
        if _ : after.length ≤ rest.length then t :: tokens after else [.malformed]
termination_by cs.length

end LongSuffix.Json
