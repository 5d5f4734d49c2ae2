/-!
# Colours

Text for a terminal. Without colours it stays plain.
-/

namespace LongSuffix.Cli

inductive Paint where
  | red
  | green
  | yellow
  | cyan
  | bold
  | dim

def Paint.code : Paint → String
  | red => "31"
  | green => "32"
  | yellow => "33"
  | cyan => "36"
  | bold => "1"
  | dim => "2"

structure Style where
  coloured : Bool

/-- A text between the codes that set and reset its look. -/
def Style.paint (style : Style) (p : Paint) (text : String) : String :=
  if style.coloured then "\x1b[" ++ p.code ++ "m" ++ text ++ "\x1b[0m" else text

end LongSuffix.Cli
