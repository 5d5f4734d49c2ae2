/-!
# Shortest decimals

A binary floating point number stands for all reals that round to it. Its shortest decimal is the
one with the fewest digits among these, and of those with as many digits the nearest.
-/

namespace LongSuffix

/-- The number `significand * 10 ^ exponent`. -/
structure Decimal where
  significand : Nat
  exponent : Int
  deriving DecidableEq, Repr

namespace Decimal

/-- The positive number `mantissa * 2 ^ exponent`. -/
structure Binary where
  mantissa : Nat
  exponent : Int

/-- The bit that a normal number has in front of its fraction. -/
def hiddenBit : Nat := 0x10000000000000

def signBit : Nat := 0x8000000000000000

/-- The reals that round to a number, times four: from `low` to `high` with the number at
`middle`, all in the same unit. -/
structure Interval where
  low : Nat
  middle : Nat
  high : Nat
  /-- The exponent of two of the unit. -/
  unit : Int
  closed : Bool

namespace Interval

/-- The interval of a number. Below a power of two the neighbour is only half as far. -/
def ofBinary (b : Binary) : Interval :=
  let below := if b.mantissa = hiddenBit ∧ -1074 < b.exponent then 1 else 2
  ⟨4 * b.mantissa - below, 4 * b.mantissa, 4 * b.mantissa + 2, b.exponent - 2, b.mantissa % 2 == 0⟩

/-- Numerator and denominator of `n` units over `10 ^ e`. -/
def ratio (i : Interval) (n : Nat) (e : Int) : Nat × Nat :=
  (n * Nat.pow 2 i.unit.toNat * Nat.pow 10 (-e).toNat,
    Nat.pow 2 (-i.unit).toNat * Nat.pow 10 e.toNat)

/-- Whether `n * 10 ^ e` lies in the interval. -/
def holds (i : Interval) (n : Nat) (e : Int) : Bool :=
  let (low, den) := i.ratio i.low e
  let (high, _) := i.ratio i.high e
  if i.closed then low ≤ n * den && n * den ≤ high else low < n * den && n * den < high

/-- Whether `n * 10 ^ e` is at most as far from the number as `(n + 1) * 10 ^ e`; an exact half
goes to the even one. -/
def lowerIsNearer (i : Interval) (n : Nat) (e : Int) : Bool :=
  let (middle, den) := i.ratio i.middle e
  let double := 2 * middle
  let edge := (2 * n + 1) * den
  double < edge || (double == edge && n % 2 == 0)

/-- The neighbours of the number on the grid of multiples of `10 ^ e` that lie in the interval, the
nearer one if both do. -/
def onGrid (i : Interval) (e : Int) : Option Nat :=
  let (middle, den) := i.ratio i.middle e
  let n := middle / den
  match i.holds n e, i.holds (n + 1) e with
  | true, true => some (if i.lowerIsNearer n e then n else n + 1)
  | true, false => some n
  | false, true => some (n + 1)
  | false, false => none

/-- Whether the number is at least `10 ^ e`. -/
def atLeast (i : Interval) (e : Int) : Bool :=
  let (middle, den) := i.ratio i.middle e
  den ≤ middle

/-- The largest exponent, at most `e`, of a power of ten that the number reaches. -/
def magnitude (i : Interval) (e : Int) : (fuel : Nat) → Int
  | 0 => e
  | fuel + 1 => if i.atLeast e then e else i.magnitude (e - 1) fuel

/-- The first grid, from coarse to fine, with a decimal in the interval. -/
def firstGrid (i : Interval) (e : Int) : (fuel : Nat) → Decimal
  | 0 => ⟨0, 0⟩
  | fuel + 1 =>
    match i.onGrid e with
    | some n => ⟨n, e⟩
    | none => i.firstGrid (e - 1) fuel

end Interval

/-- Without zeros at the end. -/
def stripZeros (d : Decimal) : (fuel : Nat) → Decimal
  | 0 => d
  | fuel + 1 =>
    if d.significand ≠ 0 ∧ d.significand % 10 = 0 then
      stripZeros ⟨d.significand / 10, d.exponent + 1⟩ fuel
    else d

/-- The shortest decimal of a positive number. Seventeen digits are always enough. -/
def shortest (b : Binary) : Decimal :=
  let i := Interval.ofBinary b
  let top := i.magnitude 309 640
  stripZeros (i.firstGrid top 18) 18

/-! ## Floating point numbers -/

/-- What a floating point number is, read off its bits. -/
inductive Class where
  | nan
  | infinite (negative : Bool)
  | zero (negative : Bool)
  | finite (negative : Bool) (value : Binary)

def classify (x : Float) : Class :=
  let bits := x.toBits.toNat
  let negative := signBit ≤ bits
  let biased : Nat := bits / hiddenBit % 2048
  let fraction : Nat := bits % hiddenBit
  if biased = 2047 then if fraction = 0 then .infinite negative else .nan
  else if biased = 0 then
    if fraction = 0 then .zero negative else .finite negative ⟨fraction, -1074⟩
  else .finite negative ⟨fraction + hiddenBit, biased - 1075⟩

/-- How decimals are written: positionally up to some size and down to some smallness, and with an
exponent otherwise. -/
structure Style where
  /-- The exponents of ten of the first digit that are written positionally; none stands for all. -/
  positional : Option (Int × Int)
  nan : String
  infinite : String

/-- Digits with a point after the first `n` of them; at least one digit stands on each side. -/
def withPoint (digits : List Char) (n : Int) : List Char :=
  let zeros (k : Int) := List.replicate k.toNat '0'
  if n ≤ 0 then ['0', '.'] ++ zeros (-n) ++ digits
  else if digits.length ≤ n then digits ++ zeros (n - digits.length) ++ ['.', '0']
  else digits.take n.toNat ++ ['.'] ++ digits.drop n.toNat

/-- One digit in front of the point, and the exponent with its sign. -/
def withExponent (digits : List Char) (e : Int) : List Char :=
  let front := match digits with
    | d :: r => if r.isEmpty then [d] else d :: '.' :: r
    | [] => []
  let sign := if e < 0 then '-' else '+'
  front ++ ['e', sign] ++ Nat.toDigits 10 e.natAbs

def Style.render (style : Style) (x : Float) : String :=
  let signed (negative : Bool) (s : String) := if negative then "-" ++ s else s
  match classify x with
  | .nan => style.nan
  | .infinite negative => signed negative style.infinite
  | .zero negative => signed negative "0.0"
  | .finite negative value =>
    let d := shortest value
    let digits := Nat.toDigits 10 d.significand
    let e := d.exponent + digits.length - 1
    let plain := match style.positional with
      | none => true
      | some (low, high) => low ≤ e && e ≤ high
    signed negative
      (String.ofList (if plain then withPoint digits (e + 1) else withExponent digits e))

end Decimal

end LongSuffix
