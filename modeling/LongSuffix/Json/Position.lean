import LongSuffix.Json.Token
import LongSuffix.Mismatch
import LongSuffix.Position

/-!
# Positions in JSON

A position is an object with the fields `line` and `column`, or an array of the two. The text is
read from left to right, and what is wrong first is told, be it the text or the data.
-/

namespace LongSuffix.Json

inductive Problem where
  /-- The text is not JSON, or goes on after the position. -/
  | malformed
  | mismatch (m : Mismatch)
  deriving DecidableEq

abbrev Reading (α : Type) := Except Problem (α × List Token)

/-! ## Values that are not looked at -/

/-- What is open around a value. -/
inductive Frame where
  | array
  | object
  deriving DecidableEq

/-- What may come next in a value. -/
inductive Expect where
  | value
  /-- A value, or the end of an array that has just started. -/
  | item
  /-- A field, or the end of an object that has just started. -/
  | field
  | key
  | colon
  /-- A comma, or the end of what is open. -/
  | more
  deriving DecidableEq

/-- Skips the rest of a value; the tokens after it. -/
def skip (frames : List Frame) (expect : Expect) : List Token → Option (List Token)
  | [] => none
  | t :: rest =>
    let done (frames : List Frame) : Option (List Token) :=
      if frames.isEmpty then some rest else skip frames .more rest
    match expect, t, frames with
    | .item, .closeArray, .array :: outer => done outer
    | .field, .closeObject, .object :: outer => done outer
    | .field, .text _, _ | .key, .text _, _ => skip frames .colon rest
    | .colon, .colon, _ => skip frames .value rest
    | .more, .comma, .array :: _ => skip frames .value rest
    | .more, .comma, .object :: _ => skip frames .key rest
    | .more, .closeArray, .array :: outer => done outer
    | .more, .closeObject, .object :: outer => done outer
    | .value, .openArray, _ | .item, .openArray, _ => skip (.array :: frames) .item rest
    | .value, .openObject, _ | .item, .openObject, _ => skip (.object :: frames) .field rest
    | .value, .null, _ | .item, .null, _ => done frames
    | .value, .boolean _, _ | .item, .boolean _, _ => done frames
    | .value, .number _, _ | .item, .number _, _ => done frames
    | .value, .text _, _ | .item, .text _, _ => done frames
    | _, _, _ => none

/-- The tokens after one value. -/
def skipValue (ts : List Token) : Except Problem (List Token) :=
  match skip [] .value ts with
  | some rest => .ok rest
  | none => .error .malformed

/-! ## Numbers and what stands in their place -/

/-- Divides by powers of ten until the exponent is in reach. -/
def scaleDown (x : Float) (e : Nat) : (fuel : Nat) → Float
  | 0 => x
  | fuel + 1 =>
    if e ≤ 308 then x / Float.ofScientific 1 false e
    else scaleDown (x / Float.ofScientific 1 false 308) (e - 308) fuel

/-- The floating point number for a decimal: the leading digits times or over a power of ten. There
is none beyond the largest. -/
def toFloat? (d : Decimal) : Option Float :=
  let x := Float.ofNat d.significand
  if d.exponent < 0 then some (scaleDown x d.exponent.natAbs 3)
  else if d.exponent ≤ 308 then
    let y := x * Float.ofScientific 1 false d.exponent.toNat
    if y.isInf then none else some y
  else if d.significand = 0 then some 0.0
  else none

/-- Positional from `0.00001` up to sixteen digits in front of the point. -/
def floatStyle : Decimal.Style := ⟨some (-5, 15), "NaN", "inf"⟩

def Number.found? : Number → Option Found
  | natural n => some (.integer n)
  | negative n => some (.integer n)
  | decimal below d =>
    (toFloat? d).map fun x => .float (floatStyle.render (if below then -x else x))

/-- What is told of a token that starts a value of the wrong type. -/
def found? : Token → Option Found
  | .null => some .null
  | .boolean b => some (.boolean b)
  | .number n => n.found?
  | .text s => s.map .text
  | .openArray => some .sequence
  | .openObject => some .map
  | _ => none

def wrongType (t : Token) (expected : String) : Problem :=
  match found? t with
  | some found => .mismatch (.invalidType found expected)
  | none => .malformed

/-- A number of lines or columns. -/
def readCount : List Token → Reading Nat
  | .number (.natural n) :: rest => .ok (n, rest)
  | .number (.negative n) :: _ => .error (.mismatch (.invalidValue (.integer n) "usize"))
  | t :: _ => .error (wrongType t "usize")
  | [] => .error .malformed

/-! ## Objects -/

inductive Field where
  | line
  | column
  deriving DecidableEq

def Field.name : Field → String
  | line => "line"
  | column => "column"

def Field.ofName? (name : List Char) : Option Field :=
  [line, column].find? (·.name.toList == name)

/-- The fields that were read so far. -/
structure Fields where
  line : Option Nat
  column : Option Nat

namespace Fields

def get? (f : Fields) : Field → Option Nat
  | .line => f.line
  | .column => f.column

def set (f : Fields) (n : Nat) : Field → Fields
  | .line => { f with line := some n }
  | .column => { f with column := some n }

/-- Both fields, or the first one that is missing. -/
def both (f : Fields) : Except Problem (Nat × Nat) :=
  match f.line, f.column with
  | none, _ => .error (.mismatch (.missingField Field.line.name))
  | _, none => .error (.mismatch (.missingField Field.column.name))
  | some line, some column => .ok (line, column)

end Fields

/-- Reads a field after its key. Fields of other names are skipped; one that was read before is
refused before its value is looked at. -/
def readField (f : Fields) (key : List Char) (ts : List Token) : Reading Fields :=
  match Field.ofName? key with
  | none =>
    match ts with
    | .colon :: rest => (skipValue rest).map (f, ·)
    | _ => .error .malformed
  | some field =>
    if (f.get? field).isSome then .error (.mismatch (.duplicateField field.name))
    else
      match ts with
      | .colon :: rest => (readCount rest).map fun (n, rest) => (f.set n field, rest)
      | _ => .error .malformed

/-- Reads the fields of an object from a key on. -/
def readFields (f : Fields) (ts : List Token) : Reading (Nat × Nat) :=
  match ts with
  | .text (some key) :: rest =>
    match readField f key rest with
    | .error e => .error e
    | .ok (f', .closeObject :: after) => f'.both.map (·, after)
    | .ok (f', .comma :: after) =>
      if _ : after.length ≤ rest.length then readFields f' after else .error .malformed
    | .ok _ => .error .malformed
  | _ => .error .malformed
termination_by ts.length

/-! ## Arrays -/

/-- How an array that is too short is told. -/
def tooShort (n : Nat) : Problem :=
  .mismatch (.invalidLength n "struct RawPosition with 2 elements")

/-- Reads the elements of an array. -/
def readPair : List Token → Reading (Nat × Nat)
  | .closeArray :: _ => .error (tooShort 0)
  | ts =>
    match readCount ts with
    | .error e => .error e
    | .ok (_, .closeArray :: _) => .error (tooShort 1)
    | .ok (line, .comma :: rest) =>
      match readCount rest with
      | .error e => .error e
      | .ok (column, .closeArray :: rest) => .ok ((line, column), rest)
      | .ok _ => .error .malformed
    | .ok _ => .error .malformed

/-! ## Positions -/

/-- A line and a column, however they are written. -/
def readCoordinates : List Token → Reading (Nat × Nat)
  | .openObject :: .closeObject :: rest => (Fields.both ⟨none, none⟩).map (·, rest)
  | .openObject :: rest => readFields ⟨none, none⟩ rest
  | .openArray :: rest => readPair rest
  | t :: _ => .error (wrongType t "struct RawPosition")
  | [] => .error .malformed

/-- The position in a text. -/
def readPosition (text : String) : Except Problem Position := do
  let ((line, column), rest) ← readCoordinates (tokens text.toList)
  match Position.of line column with
  | .error e => .error (.mismatch (.refused e.message))
  | .ok p => if rest.isEmpty then .ok p else .error .malformed

/-- A position as an object. -/
def writePosition (p : Position) : String :=
  "\x7b\"line\":" ++ toString p.line ++ ",\"column\":" ++ toString p.column ++ "\x7d"

end LongSuffix.Json
