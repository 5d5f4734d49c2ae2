import LongSuffix.Java.Pattern
import LongSuffix.Literal

/-!
# Number literals

The ways to write an integer or a floating point number. Of several that match, the longest one
counts, and an integer comes before a floating point number of the same length.
-/

namespace LongSuffix.Java

namespace Pattern

/-- Digits of a class in groups, one underscore between two groups. -/
def grouped (p : Char → Bool) : Pattern := (run p).seq (many ((char '_').seq (run p)))

def isHexDigit (c : Char) : Bool :=
  c.isDigit || ('a' ≤ c && c ≤ 'f') || ('A' ≤ c && c ≤ 'F')

def isOctalDigit (c : Char) : Bool := '0' ≤ c && c ≤ '7'

def isBinaryDigit (c : Char) : Bool := c == '0' || c == '1'

/-- A zero, or digits that start with another digit. An underscore may follow the first digit, and
any number of them may stand between later digits. -/
def decimalDigits : Pattern :=
  (char '0').longer
    ((one fun c => '1' ≤ c && c ≤ '9').seq
      (opt ((opt (char '_')).seq ((run Char.isDigit).seq
        (many ((run (· == '_')).seq (run Char.isDigit)))))))

def plainDigits : Pattern := grouped Char.isDigit

def hexGroups : Pattern := grouped isHexDigit

def hexMark : Pattern := (char '0').seq (one fun c => c == 'x' || c == 'X')

def longMark : Pattern := opt (one fun c => c == 'l' || c == 'L')

def floatMark : Pattern := one fun c => c == 'f' || c == 'F' || c == 'd' || c == 'D'

def sign : Pattern := opt (one fun c => c == '-' || c == '+')

def exponent : Pattern := (one fun c => c == 'e' || c == 'E').seq (sign.seq plainDigits)

def decimalInteger : Pattern := decimalDigits.seq longMark

def hexInteger : Pattern := hexMark.seq (hexGroups.seq longMark)

def octalInteger : Pattern :=
  (char '0').seq ((opt (one fun c => c == 'o' || c == 'O')).seq ((grouped isOctalDigit).seq longMark))

def binaryInteger : Pattern :=
  (char '0').seq ((one fun c => c == 'b' || c == 'B').seq ((grouped isBinaryDigit).seq longMark))

def decimalFloat : Pattern :=
  (plainDigits.seq ((char '.').seq ((opt plainDigits).seq ((opt exponent).seq (opt floatMark))))).longer
  (((char '.').seq (plainDigits.seq ((opt exponent).seq (opt floatMark)))).longer
  ((decimalDigits.seq (exponent.seq (opt floatMark))).longer
  (decimalDigits.seq ((opt exponent).seq floatMark))))

def binaryExponent : Pattern :=
  (one fun c => c == 'p' || c == 'P').seq (sign.seq (decimalDigits.seq (opt floatMark)))

def hexFloat : Pattern :=
  hexMark.seq
    ((((hexGroups.seq (opt (char '.')))).longer
      ((opt hexGroups).seq ((char '.').seq hexGroups))).seq (opt binaryExponent))

end Pattern

inductive NumberKind where
  | integer (kind : LiteralKind)
  | decimalFloat
  | hexFloat
  deriving DecidableEq, Repr

open Pattern in
/-- The kinds of numbers, those that come first at equal length in front. -/
def numberPatterns : List (NumberKind × Pattern) :=
  [(.integer .decimal, decimalInteger), (.integer .hex, hexInteger),
   (.integer .octal, octalInteger), (.integer .binary, binaryInteger),
   (.decimalFloat, Pattern.decimalFloat), (.hexFloat, Pattern.hexFloat)]

/-- The longest number at the front of a text. -/
def number? (cs : List Char) : Option (NumberKind × Nat) :=
  numberPatterns.foldl (fun best (kind, pattern) =>
    match pattern cs, best with
    | some n, some (_, m) => if m < n then some (kind, n) else best
    | some n, none => some (kind, n)
    | none, _ => best) none

end LongSuffix.Java
