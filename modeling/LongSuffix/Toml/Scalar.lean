import LongSuffix.Text.Numeral
import LongSuffix.Toml.Value

/-!
# Numbers, dates and words

Values that are written without quotes.
-/

namespace LongSuffix.Toml

def isDigit (c : Char) : Bool := '0' ≤ c && c ≤ '9'

/-! ## Integers -/

/-- The digits of a number; a single underscore may stand between two of them. -/
def digitsOf (p : Char → Bool) : List Char → Option (List Char)
  | [] => none
  | [c] => if p c then some [c] else none
  | c :: '_' :: rest => if p c then (digitsOf p rest).map (c :: ·) else none
  | c :: rest => if p c then (digitsOf p rest).map (c :: ·) else none

def digitIn (base : Nat) (c : Char) : Option Nat :=
  let n :=
    if isDigit c then c.toNat - '0'.toNat
    else if 'a' ≤ c && c ≤ 'f' then c.toNat - 'a'.toNat + 10
    else if 'A' ≤ c && c ≤ 'F' then c.toNat - 'A'.toNat + 10
    else base
  if n < base then some n else none

def valueIn (base : Nat) (ds : List Char) : Nat :=
  ds.foldl (fun n c => n * base + (digitIn base c).getD 0) 0

/-- Whether the number starts with a sign, and what follows. -/
def signed : List Char → Bool × List Char
  | '-' :: rest => (true, rest)
  | '+' :: rest => (false, rest)
  | cs => (false, cs)

/-- Digits without a needless zero at the front. -/
def wholeDigits (cs : List Char) : Option (List Char) := do
  let ds ← digitsOf isDigit cs
  if ds.head? = some '0' ∧ 1 < ds.length then none else some ds

/-- Whether an integer has 64 bits, with its sign. -/
def inRange (n : Int) : Bool := -0x8000000000000000 ≤ n && n < 0x8000000000000000

def based (base : Nat) (cs : List Char) : Option Int := do
  let ds ← digitsOf (digitIn base · |>.isSome) cs
  return valueIn base ds

/-- An integer of 64 bits, in base ten, sixteen, eight or two. -/
def integer? (cs : List Char) : Option Int := do
  let n ← match cs with
    | '0' :: 'x' :: rest => based 16 rest
    | '0' :: 'o' :: rest => based 8 rest
    | '0' :: 'b' :: rest => based 2 rest
    | _ => do
      let (negative, rest) := signed cs
      let n : Int := Text.decimalValue (← wholeDigits rest)
      pure (if negative then -n else n)
  if inRange n then some n else none

/-! ## Floating point numbers -/

/-- The parts in front of and behind the first character that passes a test. -/
def splitAtFirst (p : Char → Bool) (cs : List Char) : List Char × Option (List Char) :=
  match cs.dropWhile (!p ·) with
  | [] => (cs, none)
  | _ :: rest => (cs.takeWhile (!p ·), some rest)

def exponent? : Option (List Char) → Option Int
  | none => some 0
  | some cs => do
    let (negative, rest) := signed cs
    let n : Int := Text.decimalValue (← digitsOf isDigit rest)
    return if negative then -n else n

/-- The number `n * 10 ^ e`; none beyond the largest. -/
def finite? (n : Nat) (e : Int) : Option Float :=
  -- exponents that far out cannot change what a number of that many digits rounds to
  let bound : Int := 400 + (Nat.toDigits 10 n).length
  let e := max (-bound - 400) (min e bound)
  let x := if e < 0 then Float.ofScientific n true e.natAbs else Float.ofScientific n false e.toNat
  if x.isInf then none else some x

def float? (cs : List Char) : Option Float := do
  let (negative, rest) := signed cs
  let x ←
    if rest = "inf".toList then some (1.0 / 0.0)
    else if rest = "nan".toList then some (0.0 / 0.0)
    else do
      let (mantissa, exponent) := splitAtFirst (fun c => c == 'e' || c == 'E') rest
      let (whole, fraction) := splitAtFirst (· == '.') mantissa
      if fraction.isNone && exponent.isNone then none
      let ws ← wholeDigits whole
      let fs ← match fraction with
        | none => some []
        | some f => digitsOf isDigit f
      let e ← exponent? exponent
      finite? (Text.decimalValue (ws ++ fs)) (e - fs.length)
  return if negative then -x else x

/-! ## Dates and times -/

/-- A number of exactly `n` digits, and what follows. -/
def fixed? (n : Nat) (cs : List Char) : Option (Nat × List Char) :=
  let ds := cs.take n
  if ds.length = n ∧ ds.all isDigit then some (Text.decimalValue ds, cs.drop n) else none

def after? (c : Char) : List Char → Option (List Char)
  | d :: rest => if c = d then some rest else none
  | [] => none

def daysIn (year month : Nat) : Nat :=
  if month = 2 then
    if year % 4 = 0 ∧ (year % 100 ≠ 0 ∨ year % 400 = 0) then 29 else 28
  else if month = 4 ∨ month = 6 ∨ month = 9 ∨ month = 11 then 30
  else 31

/-- What follows a date. -/
def afterDate? (cs : List Char) : Option (List Char) := do
  let (year, rest) ← fixed? 4 cs
  let (month, rest) ← fixed? 2 (← after? '-' rest)
  let (day, rest) ← fixed? 2 (← after? '-' rest)
  if 1 ≤ month ∧ month ≤ 12 ∧ 1 ≤ day ∧ day ≤ daysIn year month then some rest else none

/-- What follows the seconds of a time, if it has any. -/
def afterSeconds? : List Char → Option (List Char)
  | ':' :: rest => do
    let (second, rest) ← fixed? 2 rest
    if 60 < second then none
    match rest with
    | '.' :: rest => if (rest.head?.any isDigit) then some (rest.dropWhile isDigit) else none
    | rest => some rest
  | cs => some cs

/-- What follows a time. -/
def afterTime? (cs : List Char) : Option (List Char) := do
  let (hour, rest) ← fixed? 2 cs
  let (minute, rest) ← fixed? 2 (← after? ':' rest)
  if 24 < hour ∨ 59 < minute then none
  afterSeconds? rest

/-- Whether a text is a distance from universal time, or nothing. -/
def isZone : List Char → Bool
  | [] => true
  | ['Z'] | ['z'] => true
  | c :: rest =>
    (c == '+' || c == '-') &&
      match (do
        let (hour, rest) ← fixed? 2 rest
        let (minute, rest) ← fixed? 2 (← after? ':' rest)
        if hour * 60 + minute ≤ 24 * 60 ∧ minute ≤ 59 then some rest else none : Option (List Char)) with
      | some rest => rest.isEmpty
      | none => false

/-- Whether a text is a date, a time, or a date with a time. -/
def isDate (cs : List Char) : Bool :=
  match afterDate? cs with
  | some [] => true
  | some (c :: rest) =>
    (c == 'T' || c == 't' || c == ' ') &&
      match afterTime? rest with
      | some zone => isZone zone
      | none => false
  | none =>
    match afterTime? cs with
    | some rest => rest.isEmpty
    | none => false

/-! ## Words -/

/-- The value of a text without quotes. -/
def scalar? (cs : List Char) : Option Scalar :=
  if cs = "true".toList then some (.boolean true)
  else if cs = "false".toList then some (.boolean false)
  else
    match integer? cs with
    | some n => some (.integer n)
    | none =>
      match float? cs with
      | some x => some (.float x)
      | none => if isDate cs then some .date else none

end LongSuffix.Toml
