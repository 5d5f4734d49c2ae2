import LongSuffix.Java.Reader

/-!
# Phrases

The parts of the grammar that may contain each other. A rule of the grammar is a reader that is
given readers for the phrases inside it; reading a phrase to a bounded depth ties them together.
-/

namespace LongSuffix.Java

inductive Phrase where
  | expression
  /-- Binary operators that bind at least as strongly as the given level. -/
  | operand (level : Nat)
  | unary
  | type
  | statement
  /-- A package, an import, a class or something like a class. -/
  | declaration
  | block
  | classBody
  | arrayInitializer
  /-- An annotation in front of a declaration. -/
  | note
  deriving DecidableEq

/-- Readers for the phrases inside a phrase. -/
abbrev Inner := Phrase → Reader Tree

end LongSuffix.Java
