import LongSuffix.Java.Number
import LongSuffix.Text.Identifier

/-!
# Lexemes

A source text cut into lexemes: blanks, comments, words, numbers, marks, and the pieces of string
literals. The code inside an interpolation of a string is cut like any other code, so what comes
next depends on the literals and holes that are open.
-/

namespace LongSuffix.Java

inductive LexemeKind where
  | blank
  | lineComment
  | blockComment
  | word
  | number (kind : NumberKind)
  | character
  /-- The quotes that open a string literal. -/
  | openQuote
  | closeQuote
  | fragment
  /-- Text between quotes inside a text block. -/
  | blockFragment
  | escape
  /-- The start of an interpolation in a string literal. -/
  | openHole
  | closeHole
  /-- An operator or a separator. -/
  | mark
  /-- A character that belongs to nothing. -/
  | stray
  deriving DecidableEq, Repr

structure Lexeme where
  kind : LexemeKind
  text : List Char

/-- What is open around a place: a string literal, or a hole in one with the number of braces that
are open in it. -/
inductive Frame where
  | literal (block : Bool)
  | hole (depth : Nat)
  deriving DecidableEq

abbrev Context := List Frame

def isSpace (c : Char) : Bool :=
  c == ' ' || c == '\t' || c == '\r' || c == '\n' || c == '\x0b' || c == '\x0c'

def isWordStart (c : Char) : Bool := c == '_' || c == '$' || Text.isXidStart c

def isWordPart (c : Char) : Bool := c == '$' || c == '¢' || Text.isXidContinue c

def word : Pattern := (Pattern.one isWordStart).seq (Pattern.opt (Pattern.run isWordPart))

/-! ## Comments and character literals -/

/-- The characters up to and with the next `*/`. -/
def commentEnd : List Char → Option Nat
  | [] => none
  | '*' :: '/' :: _ => some 2
  | _ :: rest => (commentEnd rest).map (· + 1)

/-- A comment that is closed. -/
def blockComment : Pattern
  | '/' :: '*' :: rest => (commentEnd rest).map (· + 2)
  | _ => none

/-- A comment that runs to the end of the line. -/
def lineComment : Pattern
  | '/' :: '/' :: rest => some (2 + (rest.takeWhile (· != '\n')).length)
  | _ => none

/-- The characters of a character literal after its opening quote. -/
def characterEnd : List Char → Option Nat
  | [] => none
  | ['\\'] => none
  | '\\' :: _ :: rest => (characterEnd rest).map (· + 2)
  | c :: rest =>
    if c == '\x27' then some 1
    else if c == '\n' then none
    else (characterEnd rest).map (· + 1)

/-- A quote, at least one character or escape on the same line, and a quote. -/
def characterLiteral : Pattern
  | '\x27' :: '\x27' :: _ => none
  | '\x27' :: rest => (characterEnd rest).map (· + 1)
  | _ => none

/-! ## Marks -/

/-- The marks of more than one character. Those that start with `>` and go on with it are cut into
single ones, since type arguments may end there. -/
def longMarks : List (List Char) :=
  ["...", "<<=", "->", "::", "++", "--", "&&", "||", "==", "!=", "<=", ">=", "+=", "-=", "*=", "/=",
   "&=", "|=", "^=", "%=", "<<"].map String.toList

def isMarkChar (c : Char) : Bool :=
  "(){}[];,.@=<>!~?:+-*/&|^%".toList.contains c

def markPattern : Pattern := fun cs =>
  match longMarks.find? (·.isPrefixOf cs) with
  | some m => some m.length
  | none => Pattern.one isMarkChar cs

/-! ## Pieces of string literals -/

/-- A backslash and what it escapes. -/
def escapePattern : Pattern :=
  let hex := Pattern.one Pattern.isHexDigit
  let octal := Pattern.one Pattern.isOctalDigit
  (Pattern.char '\\').seq
    ((Pattern.one fun _ => true).longer
    ((octal.seq ((Pattern.opt octal).seq (Pattern.opt octal))).longer
    (((Pattern.char 'x').seq (hex.seq hex)).longer
    (((Pattern.char 'u').seq (hex.seq (hex.seq (hex.seq hex)))).longer
    ((Pattern.char 'u').seq ((Pattern.char '\x7b').seq
      ((Pattern.run Pattern.isHexDigit).seq (Pattern.char '\x7d'))))))))

def isPlain (c : Char) : Bool := c != '"' && c != '\\'

/-- The piece at the front inside a string literal, and the context after it. -/
def literalPiece (block : Bool) (outer : Context) (cs : List Char) : LexemeKind × Nat × Context :=
  let inside := .literal block :: outer
  match cs with
  | '"' :: rest =>
    if !block then (.closeQuote, 1, outer)
    else if ['"', '"'].isPrefixOf rest then (.closeQuote, 3, outer)
    else (.blockFragment, 1 + (rest.takeWhile isPlain).length, inside)
  | '\\' :: '\x7b' :: _ => (.openHole, 2, .hole 0 :: inside)
  | '\\' :: _ => (.escape, (escapePattern cs).getD 1, inside)
  | _ => (if block then .blockFragment else .fragment, (cs.takeWhile isPlain).length, inside)

/-! ## Code -/

/-- How a brace changes the context, and whether it ends a hole. -/
def brace (c : Char) (ctx : Context) : LexemeKind × Context :=
  match ctx with
  | .hole depth :: outer =>
    if c == '\x7b' then (.mark, .hole (depth + 1) :: outer)
    else if c == '\x7d' then
      match depth with
      | 0 => (.closeHole, outer)
      | depth + 1 => (.mark, .hole depth :: outer)
    else (.mark, ctx)
  | _ => (.mark, ctx)

/-- What code is made of, apart from strings, numbers and marks. -/
def codeRules : List (LexemeKind × Pattern) :=
  [(.lineComment, lineComment), (.blockComment, blockComment), (.blank, Pattern.run isSpace),
   (.character, characterLiteral), (.word, word)]

/-- The lexeme at the front of code, and the context after it. -/
def codeLexeme (ctx : Context) (cs : List Char) : LexemeKind × Nat × Context :=
  match cs with
  | '"' :: rest =>
    if ['"', '"'].isPrefixOf rest then (.openQuote, 3, .literal true :: ctx)
    else (.openQuote, 1, .literal false :: ctx)
  | _ =>
    match codeRules.findSome? fun (kind, pattern) => (pattern cs).map (kind, ·) with
    | some (kind, n) => (kind, n, ctx)
    | none =>
      match number? cs with
      | some (kind, n) => (.number kind, n, ctx)
      | none =>
        match markPattern cs with
        | some n =>
          let (kind, ctx') := brace (cs.headD ' ') ctx
          (kind, n, ctx')
        | none => (.stray, 1, ctx)

def nextLexeme (ctx : Context) (cs : List Char) : LexemeKind × Nat × Context :=
  match ctx with
  | .literal block :: outer => literalPiece block outer cs
  | _ => codeLexeme ctx cs

/-- Cuts a text into lexemes. -/
def lexemes (ctx : Context) (cs : List Char) : List Lexeme :=
  match cs with
  | [] => []
  | c :: rest =>
    let (kind, n, ctx') := nextLexeme ctx (c :: rest)
    ⟨kind, c :: rest.take (n - 1)⟩ :: lexemes ctx' (rest.drop (n - 1))
termination_by cs.length
decreasing_by simp only [List.length_drop, List.length_cons]; omega

/-- Nothing of the text is lost. -/
theorem flatMap_text_lexemes (ctx : Context) (cs : List Char) :
    (lexemes ctx cs).flatMap Lexeme.text = cs := by
  fun_induction lexemes ctx cs with
  | case1 => rfl
  | case2 ctx c rest kind n ctx' _ ih => simp [ih, List.take_append_drop]

end LongSuffix.Java
