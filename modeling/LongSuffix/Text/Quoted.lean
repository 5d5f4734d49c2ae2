import LongSuffix.Text.Printable
import LongSuffix.Text.Extender

/-!
# Quoted text

A character or a text between quotes, with everything that would not show as itself escaped.
-/

namespace LongSuffix.Text

def hexDigits (n : Nat) : List Char := Nat.toDigits 16 n

/-- How a character is written between two `quote` characters: the common controls, the backslash
and the quote itself by a backslash and a letter, what does not print or joins its neighbour by its
code point, and all else as it is. -/
def escaped (quote c : Char) : List Char :=
  if c == '\x00' then ['\\', '0']
  else if c == '\t' then ['\\', 't']
  else if c == '\r' then ['\\', 'r']
  else if c == '\n' then ['\\', 'n']
  else if c == '\\' then ['\\', '\\']
  else if c == quote then ['\\', quote]
  else if isGraphemeExtender c || !isPrintable c then
    ['\\', 'u', '\x7b'] ++ hexDigits c.toNat ++ ['\x7d']
  else [c]

def quoted (s : List Char) : String :=
  String.ofList ('"' :: s.flatMap (escaped '"') ++ ['"'])

def quotedChar (c : Char) : String :=
  String.ofList ('\x27' :: escaped '\x27' c ++ ['\x27'])

end LongSuffix.Text
