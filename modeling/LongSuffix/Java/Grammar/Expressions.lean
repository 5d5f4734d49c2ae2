import LongSuffix.Java.Grammar.Types

/-!
# Expressions
-/

namespace LongSuffix.Java.Grammar

open Reader

/-! ## Operators -/

/-- How strongly the binary operators bind. -/
def operatorLevel : String → Option Nat
  | "||" => some 4
  | "&&" => some 5
  | "|" => some 6
  | "^" => some 7
  | "&" => some 8
  | "==" | "!=" => some 9
  | "<" | ">" | "<=" | ">=" => some 10
  | "<<" | ">>" | ">>>" => some 11
  | "+" | "-" => some 12
  | "*" | "/" | "%" => some 13
  | _ => none

def lowestLevel : Nat := 4

def relationLevel : Nat := 10

def assignmentOperators : List String :=
  ["=", "+=", "-=", "*=", "/=", "&=", "|=", "^=", "%=", "<<=", ">>=", ">>>="]

/-- The marks in front that touch each other and start with `>`, as one operator. -/
def angleRun : List Token → String × Nat
  | t :: u :: rest =>
    if t.text == ">" && t.stop == u.start && (u.text == ">" || u.text == ">=") then
      let (text, n) := angleRun (u :: rest)
      (">" ++ text, n + 1)
    else (t.text, 1)
  | [t] => (t.text, 1)
  | [] => ("", 0)

/-- The operator in front and the number of its tokens. -/
def operatorAhead : Reader (String × Nat) := do
  let next ← ahead 4
  require (next.head?.any (·.kind == .mark))
  return angleRun next

/-- Takes an operator that passes a test, as one leaf. -/
def operator (p : String → Bool) : Reader Tree := do
  let (text, n) ← operatorAhead
  require (p text)
  let first ← accept fun _ => true
  let more ← (List.range (n - 1)).mapM fun _ => accept fun _ => true
  let last := more.getLastD first
  return .node text first.start last.stop false []

/-! ## Literals -/

/-- The parts of a string literal, from quote to quote. -/
def stringLiteral (inner : Inner) : Reader Tree := node "string_literal" do
  let start ← accept (·.kind == .openQuote)
  let parts ← several (single piece <|> single hole)
  let close ← accept (·.kind == .closeQuote)
  return start.leaf :: parts ++ [close.leaf]
where
  piece : Reader Tree :=
    return (← accept fun t => t.kind == .fragment || t.kind == .blockFragment || t.kind == .escape).leaf
  hole : Reader Tree := node "string_interpolation" do
    let l ← accept (·.kind == .openHole)
    let value ← inner .expression
    return [l.leaf, value, (← accept (·.kind == .closeHole)).leaf]

def isLiteral (t : Token) : Bool :=
  match t.kind with
  | .number _ | .character => true
  | .word => ["true", "false", "null", "this", "super"].contains t.text
  | _ => false

/-! ## Calls, arrays and objects -/

def argumentList (inner : Inner) : Reader Tree :=
  node "argument_list" (bracketed "(" ")" (single (inner .expression)))

def arrayInitializerRule (inner : Inner) : Reader Tree := node "array_initializer" do
  let l ← mark "\x7b"
  let items ← option (separated "," (single (inner .arrayInitializer <|> inner .expression)))
  let comma ← option (single (mark ","))
  let r ← mark "\x7d"
  return l :: items ++ comma ++ [r]

/-- The length of an array, in brackets. -/
def lengthBrackets (inner : Inner) : Reader Tree := node "dimensions_expr" do
  let l ← mark "["
  let e ← inner .expression
  return [l, e, ← mark "]"]

/-- A new array or a new object. -/
def creation (inner : Inner) : Reader Tree := do
  let new ← keyword "new"
  let t ← simpleType inner
  (node "array_creation_expression" do
    let dims ← dimensions
    return [new, t, dims, ← inner .arrayInitializer])
  <|> (node "array_creation_expression" do
    let first ← lengthBrackets inner
    let more ← several (single (lengthBrackets inner))
    return [new, t, first] ++ more ++ (← option (single dimensions)))
  <|> (node "object_creation_expression" do
    let args ← argumentList inner
    return [new, t, args] ++ (← option (single (inner .classBody))))

def parenthesized (inner : Inner) : Reader Tree := node "parenthesized_expression" do
  let l ← mark "("
  let e ← inner .expression
  return [l, e, ← mark ")"]

/-! ## Parameters -/

/-- A name that is declared, with brackets after it if it is an array. -/
def declaredName : Reader (List Tree) := do
  let name ← identifier
  return name :: (← option (single dimensions))

def formalParameter (inner : Inner) : Reader Tree := do
  let mods ← modifiers inner
  let t ← inner .type
  (node "spread_parameter" do
    let dots ← mark "..."
    return mods ++ [t, dots, ← node "variable_declarator" declaredName])
  <|> node "formal_parameter" do return mods ++ [t] ++ (← declaredName)

def formalParameters (inner : Inner) : Reader Tree :=
  node "formal_parameters" (bracketed "(" ")" (single (formalParameter inner)))

/-- A function written as its parameters, an arrow and its result. -/
def lambda (inner : Inner) : Reader Tree := node "lambda_expression" do
  let params ← identifier <|> formalParameters inner
    <|> node "inferred_parameters" (bracketed "(" ")" (single identifier))
  let arrow ← mark "->"
  return [params, arrow, ← inner .block <|> inner .expression]

/-! ## Switches -/

def switchLabel (inner : Inner) : Reader Tree := node "switch_label" <|
  (do
    let word ← keyword "case"
    return word :: (← separated "," (single (constant <|> inner (.operand lowestLevel)))))
  <|> single (keyword "default")
where
  -- an arrow after a name belongs to the label, not to a lambda
  constant : Reader Tree := do
    let name ← identifier
    require (← nextIs fun t => isMark "->" t || isMark "," t || isMark ":" t)
    return name

def switchGroup (inner : Inner) : Reader Tree := node "switch_block_statement_group" do
  let first ← label
  let labels ← several label
  let body ← several (single (inner .statement))
  return first ++ labels ++ body
where
  label : Reader (List Tree) := do
    let l ← switchLabel inner
    return [l, ← mark ":"]

def switchRule (inner : Inner) : Reader Tree := node "switch_rule" do
  let l ← switchLabel inner
  let arrow ← mark "->"
  return [l, arrow, ← inner .block <|> inner .statement]

def switchExpression (inner : Inner) : Reader Tree := node "switch_expression" do
  let word ← keyword "switch"
  let value ← parenthesized inner
  let block ← node "switch_block" do
    let l ← mark "\x7b"
    let parts ← several (single (switchRule inner <|> switchGroup inner))
    return l :: parts ++ [← mark "\x7d"]
  return [word, value, block]

/-! ## Primary and postfix expressions -/

/-- An expression that names a type, as that type. -/
def asType : Tree → Tree
  | .node "identifier" start stop flawed [] => .node "type_identifier" start stop flawed []
  | .node "field_access" start stop flawed [left, dot, name] =>
    .node "scoped_type_identifier" start stop flawed [left, dot, name]
  | t => t

def primary (inner : Inner) : Reader Tree := do
  let next ← ahead 2
  let some t := next.head? | fail
  if isLiteral t then return (← accept isLiteral).leaf
  else if t.kind == .openQuote then stringLiteral inner
  else if isMark "(" t then lambda inner <|> parenthesized inner
  else if isWord "new" t then creation inner
  else if isWord "switch" t then switchExpression inner
  else if t.isIdentifier then
    if next[1]?.any (isMark "->") then lambda inner
    else if next[1]?.any (isMark "(") then
      node "method_invocation" do
        let name ← identifier
        return [name, ← argumentList inner]
    else identifier
  else
    -- a primitive type can only be asked for its class, or for one of its functions
    let t ← inner .type
    (node "class_literal" do
      let dot ← mark "."
      return [t, dot, ← keyword "class"])
    <|> node "method_reference" do
      let dots ← mark "::"
      return [t, dots, ← keyword "new"]

/-- What may follow a primary expression. -/
def postfixStep (inner : Inner) (left : Tree) : Reader Tree := do
  let some t ← peek? | fail
  if isMark "." t then
    let dot ← mark "."
    (return build "class_literal" [asType left, dot, ← keyword "class"])
    <|> (return build "field_access" [left, dot, ← keyword "this"])
    <|> do
      let args ← option (single (typeArguments inner))
      let name ← identifier
      (return build "method_invocation" ([left, dot] ++ args ++ [name, ← argumentList inner]))
      <|> do require args.isEmpty; return build "field_access" [left, dot, name]
  else if isMark "[" t then
    let l ← mark "["
    let index ← inner .expression
    return build "array_access" [left, l, index, ← mark "]"]
  else if isMark "++" t || isMark "--" t then
    return build "update_expression" [left, ← mark t.text]
  else if isMark "::" t then
    let dots ← mark "::"
    return build "method_reference" [left, dots, ← identifier <|> keyword "new"]
  else fail

/-- Whether a token may follow a type in parentheses that is a cast and not a value. -/
def startsCastOperand (primitive : Bool) (t : Token) : Bool :=
  match t.kind with
  | .number _ | .character | .openQuote => true
  | .word => t.text != "instanceof"
  | .mark =>
    t.text == "(" || t.text == "!" || t.text == "~"
      || primitive && (t.text == "+" || t.text == "-" || t.text == "++" || t.text == "--")
  | _ => false

def cast (inner : Inner) : Reader Tree := node "cast_expression" do
  let l ← mark "("
  let t ← inner .type
  let r ← mark ")"
  let primitive := ["integral_type", "floating_point_type", "boolean_type"].contains t.kind
  require (← nextIs (startsCastOperand primitive))
  return [l, t, r, ← inner .unary]

def unaryRule (inner : Inner) : Reader Tree := do
  let some t ← peek? | fail
  if t.kind == .mark && ["+", "-", "!", "~"].contains t.text then
    let op ← mark t.text
    return build "unary_expression" [op, ← inner .unary]
  else if isMark "++" t || isMark "--" t then
    let op ← mark t.text
    return build "update_expression" [op, ← inner .unary]
  else if isMark "(" t then cast inner <|> value
  else value
where
  value : Reader Tree := do iterate (postfixStep inner) (← primary inner)

/-! ## Operators and assignments -/

/-- One more operator and its right operand, if the operator binds strongly enough. -/
def binaryStep (inner : Inner) (level : Nat) (left : Tree) : Reader Tree := do
  if ← atWord "instanceof" then
    require (level ≤ relationLevel)
    let word ← keyword "instanceof"
    let final ← option (single (keyword "final"))
    let t ← inner .type
    return build "instanceof_expression" ([left, word] ++ final ++ [t] ++ (← option (single identifier)))
  else
    let (text, _) ← operatorAhead
    let some strength := operatorLevel text | fail
    require (level ≤ strength)
    let op ← operator (· == text)
    return build "binary_expression" [left, op, ← inner (.operand (strength + 1))]

def operandRule (inner : Inner) (level : Nat) : Reader Tree := do
  iterate (binaryStep inner level) (← inner .unary)

def expressionRule (inner : Inner) : Reader Tree := do
  let left ← inner (.operand lowestLevel)
  (do
    let op ← operator assignmentOperators.contains
    return build "assignment_expression" [left, op, ← inner .expression])
  <|> (do
    let q ← mark "?"
    let yes ← inner .expression
    let colon ← mark ":"
    return build "ternary_expression" [left, q, yes, colon, ← inner .expression])
  <|> pure left

end LongSuffix.Java.Grammar
