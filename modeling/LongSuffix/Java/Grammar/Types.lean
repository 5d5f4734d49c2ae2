import LongSuffix.Java.Grammar.Phrase

/-!
# Types, names and annotations
-/

namespace LongSuffix.Java.Grammar

open Reader

/-- A name with dots. -/
def qualifiedName : Reader Tree := do
  iterate (fun left => node "scoped_identifier" do
    let dot ← mark "."
    return [left, dot, ← identifier]) (← identifier)

def primitiveType : Reader Tree := do
  let t ← accept (·.kind == .word)
  if ["byte", "short", "int", "long", "char"].contains t.text then
    return build "integral_type" [t.leaf]
  else if ["float", "double"].contains t.text then
    return build "floating_point_type" [t.leaf]
  else if t.text == "boolean" then return t.leafAs "boolean_type"
  else if t.text == "void" then return t.leafAs "void_type"
  else fail

/-- A type argument that is left open, with or without a bound. -/
def wildcard (inner : Inner) : Reader Tree := node "wildcard" do
  let q ← mark "?"
  let bound ← option do
    let word ← keyword "extends" <|> keyword "super"
    return [word, ← inner .type]
  return q :: bound

def typeArguments (inner : Inner) : Reader Tree :=
  node "type_arguments" (bracketed "<" ">" (single (inner .type <|> wildcard inner)))

def withArguments (inner : Inner) (t : Tree) : Reader Tree := do
  if ← atMark "<" then return build "generic_type" [t, ← typeArguments inner] else return t

def typeName : Reader Tree := return (← accept Token.isIdentifier).leafAs "type_identifier"

/-- A class or interface type with its type arguments. -/
def classType (inner : Inner) : Reader Tree := do
  let first ← typeName
  let first ← withArguments inner first <|> pure first
  iterate (fun left => do
    let dot ← mark "."
    let name ← typeName
    let qualified := build "scoped_type_identifier" [left, dot, name]
    withArguments inner qualified <|> pure qualified) first

/-- Pairs of empty brackets. -/
def dimensions : Reader Tree := node "dimensions" do
  let first ← pair
  return first ++ (← several pair)
where
  pair : Reader (List Tree) := do
    let l ← mark "["
    return [l, ← mark "]"]

def simpleType (inner : Inner) : Reader Tree := primitiveType <|> classType inner

def typeRule (inner : Inner) : Reader Tree := do
  let t ← simpleType inner
  (node "array_type" do return [t, ← dimensions]) <|> pure t

/-- Types in front of a declaration's parameters. -/
def typeParameters (inner : Inner) : Reader Tree :=
  node "type_parameters" (bracketed "<" ">" (single parameter))
where
  parameter : Reader Tree := node "type_parameter" do
    let name ← typeName
    let bound ← option (single (node "type_bound" do
      let word ← keyword "extends"
      return word :: (← separated "&" (single (inner .type)))))
    return name :: bound

/-! ## Annotations and modifiers -/

/-- A value given to an annotation. -/
def elementValue (inner : Inner) : Reader Tree :=
  node "element_value_array_initializer" (do
    let l ← mark "\x7b"
    let items ← option (separated "," (single (inner .note <|> inner .expression)))
    let comma ← option (single (mark ","))
    let r ← mark "\x7d"
    return l :: items ++ comma ++ [r])
  <|> inner .note <|> inner .expression

def elementPair (inner : Inner) : Reader Tree := node "element_value_pair" do
  let key ← identifier
  let eq ← mark "="
  return [key, eq, ← elementValue inner]

def annotationArguments (inner : Inner) : Reader Tree :=
  node "annotation_argument_list"
    (bracketed "(" ")" (single (elementPair inner))
      <|> bracketed "(" ")" (single (elementValue inner)))

def annotationRule (inner : Inner) : Reader Tree := do
  let sign ← mark "@"
  let name ← qualifiedName
  (return build "annotation" [sign, name, ← annotationArguments inner])
    <|> return build "marker_annotation" [sign, name]

def modifierWords : List String :=
  ["public", "protected", "private", "abstract", "static", "final", "strictfp", "default",
   "synchronized", "native", "transient", "volatile", "sealed"]

/-- The modifiers in front of a declaration, if there are any. -/
def modifiers (inner : Inner) : Reader (List Tree) := do
  let parts ← (many (do
    let next ← ahead 2
    -- a word that names something else here is no modifier
    require !(next.head?.any (isWord "sealed") && next[1]?.any fun t => t.kind == .mark)
    word <|> inner .note) : Reader (List Tree))
  return if parts.isEmpty then [] else [build "modifiers" parts]
where
  word : Reader Tree := do
    let t ← accept fun t => t.kind == .word && modifierWords.contains t.text
    return t.leafAs t.text

end LongSuffix.Java.Grammar
