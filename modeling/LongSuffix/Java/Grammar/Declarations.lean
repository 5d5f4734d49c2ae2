import LongSuffix.Java.Grammar.Statements

/-!
# Declarations
-/

namespace LongSuffix.Java.Grammar

open Reader

/-! ## Packages and imports -/

def packageDeclaration (inner : Inner) : Reader Tree := node "package_declaration" do
  let notes ← several (single (inner .note))
  let word ← keyword "package"
  let name ← qualifiedName
  return notes ++ [word, name, ← mark ";"]

def importDeclaration : Reader Tree := node "import_declaration" do
  let word ← keyword "import"
  let static ← option (single (keyword "static"))
  let name ← qualifiedName
  let all ← option do
    let dot ← mark "."
    let star ← accept (isMark "*")
    return [dot, star.leafAs "asterisk"]
  return word :: static ++ [name] ++ all ++ [← mark ";"]

/-! ## Methods and fields -/

def typeList (inner : Inner) : Reader Tree := node "type_list" (separated "," (single (inner .type)))

def throws (inner : Inner) : Reader Tree := node "throws" do
  let word ← keyword "throws"
  return word :: (← separated "," (single (inner .type)))

def methodDeclaration (inner : Inner) : Reader Tree := node "method_declaration" do
  let mods ← modifiers inner
  let generics ← option (single (typeParameters inner))
  let t ← inner .type
  let name ← identifier
  let params ← formalParameters inner
  let dims ← option (single dimensions)
  let faults ← option (single (throws inner))
  let body ← inner .block <|> mark ";"
  return mods ++ generics ++ [t, name, params] ++ dims ++ faults ++ [body]

/-- A call of another constructor, in front of all statements. -/
def constructorCall (inner : Inner) : Reader Tree := node "explicit_constructor_invocation" do
  let args ← option (single (typeArguments inner))
  let target ← keyword "this" <|> keyword "super"
  let list ← argumentList inner
  return args ++ [target, list, ← mark ";"]

def constructorDeclaration (inner : Inner) : Reader Tree := node "constructor_declaration" do
  let mods ← modifiers inner
  let generics ← option (single (typeParameters inner))
  let name ← identifier
  let params ← formalParameters inner
  let faults ← option (single (throws inner))
  let body ← node "constructor_body" do
    let l ← mark "\x7b"
    let call ← option (single (constructorCall inner))
    let statements ← several (single (inner .statement))
    return l :: call ++ statements ++ [← mark "\x7d"]
  return mods ++ generics ++ [name, params] ++ faults ++ [body]

/-- A constructor of a record that names no parameters. -/
def compactConstructor (inner : Inner) : Reader Tree := node "compact_constructor_declaration" do
  let mods ← modifiers inner
  let name ← identifier
  return mods ++ [name, ← inner .block]

/-- A field of a class, or a constant of an interface. -/
def fieldDeclaration (kind : String) (inner : Inner) : Reader Tree := node kind do
  let mods ← modifiers inner
  return mods ++ (← declarators inner true)

def staticInitializer (inner : Inner) : Reader Tree := node "static_initializer" do
  let word ← keyword "static"
  return [word, ← inner .block]

/-! ## Classes, interfaces and their like -/

/-- Declarations in braces. -/
def bodyOf (kind : String) (members : Reader Tree) : Reader Tree := node kind do
  let l ← mark "\x7b"
  let parts ← several (single members)
  return l :: parts ++ [← mark "\x7d"]

def clause (kind word : String) (rest : Reader Tree) : Reader (List Tree) :=
  option (single (node kind do
    let w ← keyword word
    return [w, ← rest]))

def classDeclaration (inner : Inner) : Reader Tree := node "class_declaration" do
  let mods ← modifiers inner
  let word ← keyword "class"
  let name ← identifier
  let generics ← option (single (typeParameters inner))
  let above ← clause "superclass" "extends" (inner .type)
  let interfaces ← clause "super_interfaces" "implements" (typeList inner)
  let permitted ← clause "permits" "permits" (typeList inner)
  return mods ++ [word, name] ++ generics ++ above ++ interfaces ++ permitted
    ++ [← inner .classBody]

def recordDeclaration (inner : Inner) : Reader Tree := node "record_declaration" do
  let mods ← modifiers inner
  let word ← keyword "record"
  let name ← identifier
  let generics ← option (single (typeParameters inner))
  let params ← formalParameters inner
  let interfaces ← clause "super_interfaces" "implements" (typeList inner)
  return mods ++ [word, name] ++ generics ++ [params] ++ interfaces ++ [← inner .classBody]

def enumConstant (inner : Inner) : Reader Tree := node "enum_constant" do
  let mods ← modifiers inner
  let name ← identifier
  let args ← option (single (argumentList inner))
  return mods ++ [name] ++ args ++ (← option (single (inner .classBody)))

/-- The members of an enumeration after its constants. -/
def enumMembers (member : Reader Tree) : Reader Tree := node "enum_body_declarations" do
  let stop ← mark ";"
  return stop :: (← several (single member))

def enumDeclaration (member : Reader Tree) (inner : Inner) : Reader Tree :=
  node "enum_declaration" do
    let mods ← modifiers inner
    let word ← keyword "enum"
    let name ← identifier
    let interfaces ← clause "super_interfaces" "implements" (typeList inner)
    let body ← node "enum_body" do
      let l ← mark "\x7b"
      let constants ← option (separated "," (single (enumConstant inner)))
      let comma ← option (single (mark ","))
      let members ← option (single (enumMembers member))
      return l :: constants ++ comma ++ members ++ [← mark "\x7d"]
    return mods ++ [word, name] ++ interfaces ++ [body]

def interfaceMember (inner : Inner) : Reader Tree :=
  mark ";" <|> inner .declaration <|> methodDeclaration inner
    <|> fieldDeclaration "constant_declaration" inner

def interfaceDeclaration (inner : Inner) : Reader Tree := node "interface_declaration" do
  let mods ← modifiers inner
  let word ← keyword "interface"
  let name ← identifier
  let generics ← option (single (typeParameters inner))
  let above ← clause "extends_interfaces" "extends" (typeList inner)
  let permitted ← clause "permits" "permits" (typeList inner)
  return mods ++ [word, name] ++ generics ++ above ++ permitted
    ++ [← bodyOf "interface_body" (interfaceMember inner)]

/-! ## Types of annotations -/

def defaultValue (inner : Inner) : Reader Tree := node "default_value" do
  let word ← keyword "default"
  return [word, ← elementValue inner]

def annotationElement (inner : Inner) : Reader Tree :=
  node "annotation_type_element_declaration" do
    let mods ← modifiers inner
    let t ← inner .type
    let name ← identifier
    let l ← mark "("
    let r ← mark ")"
    let dims ← option (single dimensions)
    let value ← option (single (defaultValue inner))
    return mods ++ [t, name, l, r] ++ dims ++ value ++ [← mark ";"]

/-- The sign and the word that start a type of annotations, as one leaf. -/
def annotationWord : Reader Tree := do
  let sign ← accept (isMark "@")
  let word ← accept (isWord "interface")
  return .node "@interface" sign.start word.stop false []

def annotationTypeDeclaration (inner : Inner) : Reader Tree :=
  node "annotation_type_declaration" do
    let mods ← modifiers inner
    let word ← annotationWord
    let name ← identifier
    let member := mark ";" <|> inner .declaration <|> annotationElement inner
      <|> fieldDeclaration "constant_declaration" inner
    return mods ++ [word, name, ← bodyOf "annotation_type_body" member]

/-! ## Members and declarations -/

def classMember (inner : Inner) : Reader Tree :=
  mark ";" <|> inner .block <|> staticInitializer inner <|> inner .declaration
    <|> methodDeclaration inner <|> constructorDeclaration inner <|> compactConstructor inner
    <|> fieldDeclaration "field_declaration" inner

def classBodyRule (inner : Inner) : Reader Tree := bodyOf "class_body" (classMember inner)

/-- What a declaration after its modifiers starts with. -/
def declarationWord (inner : Inner) : Reader (Reader Tree) := fun s =>
  (do
    let _ ← modifiers inner
    let next ← ahead 2
    let some t := next.head? | fail
    if isWord "class" t then return classDeclaration inner
    else if isWord "interface" t then return interfaceDeclaration inner
    else if isWord "enum" t then return enumDeclaration (classMember inner) inner
    else if isWord "record" t then return recordDeclaration inner
    else if isMark "@" t then return annotationTypeDeclaration inner
    else if isWord "package" t then return packageDeclaration inner
    else if isWord "import" t then return importDeclaration
    else fail : Reader (Reader Tree)) s |>.map fun (r, _) => (r, s)

def declarationRule (inner : Inner) : Reader Tree := do
  let r ← declarationWord inner
  r

def statementRule (inner : Inner) : Reader Tree := statementWith (inner .declaration) inner

/-- What may stand outside of all classes. -/
def topLevel (inner : Inner) : Reader Tree :=
  inner .declaration <|> methodDeclaration inner <|> inner .statement

/-! ## Phrases tied together -/

def rule (inner : Inner) : Phrase → Reader Tree
  | .expression => expressionRule inner
  | .operand level => operandRule inner level
  | .unary => unaryRule inner
  | .type => typeRule inner
  | .statement => statementRule inner
  | .declaration => declarationRule inner
  | .block => blockRule inner
  | .classBody => classBodyRule inner
  | .arrayInitializer => arrayInitializerRule inner
  | .note => annotationRule inner

/-- Reads a phrase with at most `depth` phrases inside each other. -/
def read : (depth : Nat) → Inner
  | 0, _ => fail
  | depth + 1, phrase => rule (read depth) phrase

end LongSuffix.Java.Grammar
