/-!
# Decimal numerals

Unsigned numerals, and those that denote a number of 64 bits.
-/

namespace LongSuffix.Text

def digitValue (c : Char) : Nat := c.toNat - '0'.toNat

/-- The number that a row of decimal digits denotes. -/
def decimalValue (digits : List Char) : Nat :=
  digits.foldl (fun n c => 10 * n + digitValue c) 0

/-- One more than the largest number of 64 bits. -/
def wordBound : Nat := 0x10000000000000000

/-- Reads one or more decimal digits, after at most one plus sign, that denote a number of 64
bits. Leading zeros are allowed. -/
def readWord (s : List Char) : Option Nat :=
  let digits := match s with
    | '+' :: rest => rest
    | s => s
  if digits.isEmpty || !digits.all Char.isDigit then none
  else if decimalValue digits < wordBound then some (decimalValue digits)
  else none

end LongSuffix.Text
