import LongSuffix.Text.Quoted

/-!
# JSON values

Values as they are printed: over several lines, indented by two blanks a level.
-/

namespace LongSuffix.Json

inductive Value where
  | boolean (b : Bool)
  | natural (n : Nat)
  | text (s : String)
  | array (items : List Value)
  | object (fields : List (String × Value))

/-- A number as four digits. -/
def fourDigits (n : Nat) : List Char :=
  let ds := Nat.toDigits 16 n
  List.replicate (4 - ds.length) '0' ++ ds

def escape (c : Char) : List Char :=
  match c with
  | '"' => ['\\', '"']
  | '\\' => ['\\', '\\']
  | '\x08' => ['\\', 'b']
  | '\x0c' => ['\\', 'f']
  | '\n' => ['\\', 'n']
  | '\r' => ['\\', 'r']
  | '\t' => ['\\', 't']
  | c => if c.toNat < 0x20 then ['\\', 'u'] ++ fourDigits c.toNat else [c]

def quote (s : String) : String :=
  String.ofList ('"' :: s.toList.flatMap escape ++ ['"'])

def newline (indent : Nat) : String := "\n" ++ String.ofList (List.replicate (2 * indent) ' ')

/-- Lines between two brackets, with commas between them. -/
def enclose (left right : String) (indent : Nat) (lines : List String) : String :=
  if lines.isEmpty then left ++ right
  else left ++ newline (indent + 1) ++ (("," ++ newline (indent + 1)).intercalate lines)
    ++ newline indent ++ right

namespace Value

mutual

def pretty (indent : Nat) : Value → String
  | boolean b => if b then "true" else "false"
  | natural n => toString n
  | text s => quote s
  | array items => enclose "[" "]" indent (prettyItems (indent + 1) items)
  | object fields => enclose "\x7b" "\x7d" indent (prettyFields (indent + 1) fields)

def prettyItems (indent : Nat) : List Value → List String
  | [] => []
  | v :: rest => v.pretty indent :: prettyItems indent rest

def prettyFields (indent : Nat) : List (String × Value) → List String
  | [] => []
  | (key, v) :: rest => (quote key ++ ": " ++ v.pretty indent) :: prettyFields indent rest

end

end Value

end LongSuffix.Json
