import LongSuffix.Java.Grammar.Expressions

/-!
# Statements
-/

namespace LongSuffix.Java.Grammar

open Reader

/-! ## Declarations of variables -/

/-- The node put in where a semicolon is missing. It has no text, and comes after the comments that
follow the last token. -/
def missingSemicolon : Reader Tree := do
  let place := ((← peek?).map Token.lead).getD (← get).finish
  return .node ";" place place true []

/-- The end of a statement. At the end of a block the semicolon may be missing. -/
def statementEnd : Reader Tree := mark ";" <|> do
  require ((← peek?).all (isMark "\x7d"))
  missingSemicolon

/-- The initial value of a variable. -/
def initializer (inner : Inner) : Reader Tree := inner .arrayInitializer <|> inner .expression

def variableDeclarator (inner : Inner) : Reader Tree := node "variable_declarator" do
  let name ← declaredName
  let value ← option do
    let eq ← mark "="
    return [eq, ← initializer inner]
  return name ++ value

/-- Whether a declarator gives its variable a value. -/
def hasValue (t : Tree) : Bool := t.children.any (·.kind == "=")

/-- Variables with their type, up to the semicolon. After a value the semicolon may be missing, if
`lenient` says so. -/
def declarators (inner : Inner) (lenient : Bool) : Reader (List Tree) := do
  let t ← inner .type
  let names ← separated "," (single (variableDeclarator inner))
  let complete := lenient && names.getLast?.any hasValue
  let stop ← mark ";" <|> (do require complete; missingSemicolon)
  return t :: names ++ [stop]

def localVariables (inner : Inner) (lenient : Bool) : Reader Tree :=
  node "local_variable_declaration" do
    let mods ← modifiers inner
    return mods ++ (← declarators inner lenient)

/-! ## Simple statements -/

def expressionStatement (inner : Inner) : Reader Tree := node "expression_statement" do
  let e ← inner .expression
  return [e, ← statementEnd]

/-- A word, perhaps something after it, and a semicolon. -/
def simple (kind word : String) (rest : Reader (List Tree)) : Reader Tree := node kind do
  let w ← keyword word
  let parts ← rest
  return w :: parts ++ [← statementEnd]

def blockRule (inner : Inner) : Reader Tree := node "block" do
  let l ← mark "\x7b"
  let body ← several (single (inner .statement))
  return l :: body ++ [← mark "\x7d"]

/-! ## Branches and loops -/

def ifStatement (inner : Inner) : Reader Tree := node "if_statement" do
  let word ← keyword "if"
  let condition ← parenthesized inner
  let body ← inner .statement
  let other ← option do
    let word ← keyword "else"
    return [word, ← inner .statement]
  return [word, condition, body] ++ other

def whileStatement (inner : Inner) : Reader Tree := node "while_statement" do
  let word ← keyword "while"
  let condition ← parenthesized inner
  return [word, condition, ← inner .statement]

def doStatement (inner : Inner) : Reader Tree := node "do_statement" do
  let word ← keyword "do"
  let body ← inner .statement
  let while' ← keyword "while"
  let condition ← parenthesized inner
  return [word, body, while', condition, ← mark ";"]

/-- A loop over the elements of a collection. -/
def enhancedFor (inner : Inner) : Reader Tree := node "enhanced_for_statement" do
  let word ← keyword "for"
  let l ← mark "("
  let mods ← modifiers inner
  let t ← inner .type
  let name ← declaredName
  let colon ← mark ":"
  let values ← inner .expression
  let r ← mark ")"
  let body ← inner .statement
  return [word, l] ++ mods ++ [t] ++ name ++ [colon, values, r, body]

def forStatement (inner : Inner) : Reader Tree := node "for_statement" do
  let word ← keyword "for"
  let l ← mark "("
  let start ← single (localVariables inner false) <|> do
    let items ← option (separated "," (single (inner .expression)))
    return items ++ [← mark ";"]
  let condition ← option (single (inner .expression))
  let stop ← mark ";"
  let update ← option (separated "," (single (inner .expression)))
  let r ← mark ")"
  let body ← inner .statement
  return [word, l] ++ start ++ condition ++ [stop] ++ update ++ [r, body]

/-! ## Exceptions and locks -/

def catchClause (inner : Inner) : Reader Tree := node "catch_clause" do
  let word ← keyword "catch"
  let l ← mark "("
  let parameter ← node "catch_formal_parameter" do
    let mods ← modifiers inner
    let types ← node "catch_type" (separated "|" (single (inner .type)))
    return mods ++ [types] ++ (← declaredName)
  let r ← mark ")"
  return [word, l, parameter, r, ← inner .block]

def finallyClause (inner : Inner) : Reader Tree := node "finally_clause" do
  let word ← keyword "finally"
  return [word, ← inner .block]

/-- A resource that is closed at the end of its block. -/
def resource (inner : Inner) : Reader Tree := node "resource" <|
  (do
    let mods ← modifiers inner
    let t ← inner .type
    let name ← declaredName
    let eq ← mark "="
    return mods ++ [t] ++ name ++ [eq, ← inner .expression])
  <|> single (inner .unary)

def resources (inner : Inner) : Reader Tree := node "resource_specification" do
  let l ← mark "("
  let items ← separated ";" (single (resource inner))
  let stop ← option (single (mark ";"))
  return l :: items ++ stop ++ [← mark ")"]

def tryStatement (inner : Inner) : Reader Tree := do
  let word ← keyword "try"
  let held ← option (single (resources inner))
  let body ← inner .block
  let handlers ← several (single (catchClause inner))
  let final ← option (single (finallyClause inner))
  require !(held.isEmpty && handlers.isEmpty && final.isEmpty)
  let kind := if held.isEmpty then "try_statement" else "try_with_resources_statement"
  return build kind (word :: held ++ [body] ++ handlers ++ final)

def synchronizedStatement (inner : Inner) : Reader Tree := node "synchronized_statement" do
  let word ← keyword "synchronized"
  let lock ← parenthesized inner
  return [word, lock, ← inner .block]

/-! ## Statements by their first token -/

def labeledStatement (inner : Inner) : Reader Tree := node "labeled_statement" do
  let name ← identifier
  let colon ← mark ":"
  return [name, colon, ← inner .statement]

/-- The statements that start with a word of their own. -/
def wordStatement (inner : Inner) (word : String) : Option (Reader Tree) :=
  let expression := single (inner .expression)
  match word with
  | "if" => some (ifStatement inner)
  | "while" => some (whileStatement inner)
  | "do" => some (doStatement inner)
  | "for" => some (enhancedFor inner <|> forStatement inner)
  | "switch" => some (switchExpression inner)
  | "try" => some (tryStatement inner)
  | "return" => some (simple "return_statement" "return" (option expression))
  | "throw" => some (simple "throw_statement" "throw" expression)
  | "yield" => some (simple "yield_statement" "yield" expression)
  | "break" => some (simple "break_statement" "break" (option (single identifier)))
  | "continue" => some (simple "continue_statement" "continue" (option (single identifier)))
  | "assert" => some (simple "assert_statement" "assert" do
      let claim ← inner .expression
      let text ← option do
        let colon ← mark ":"
        return [colon, ← inner .expression]
      return claim :: text)
  | "synchronized" => some (synchronizedStatement inner)
  | _ => none

/-- A statement, where `declaration` reads the declarations of classes and the like. -/
def statementWith (declaration : Reader Tree) (inner : Inner) : Reader Tree := do
  let some t ← peek? | fail
  if isMark ";" t then mark ";"
  else if isMark "\x7b" t then inner .block
  else
    let own := if t.kind == .word then wordStatement inner t.text else none
    (own.getD fail) <|> declaration <|> localVariables inner true <|> labeledStatement inner
      <|> expressionStatement inner

end LongSuffix.Java.Grammar
