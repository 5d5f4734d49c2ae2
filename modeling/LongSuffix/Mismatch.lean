import LongSuffix.Text.Quoted

/-!
# Data of the wrong shape

What a decoder found instead of what it was looking for, and how that is told.
-/

namespace LongSuffix

/-- A value that was found, as far as it is told. -/
inductive Found where
  | null
  | boolean (b : Bool)
  | integer (n : Int)
  /-- A number with a fraction or an exponent, as it is written. -/
  | float (text : String)
  | text (s : List Char)
  | sequence
  | map
  deriving DecidableEq

def Found.message : Found → String
  | null => "null"
  | boolean b => s!"boolean `{b}`"
  | integer n => s!"integer `{n}`"
  | float digits => s!"floating point `{digits}`"
  | text s => s!"string {Text.quoted s}"
  | sequence => "sequence"
  | map => "map"

inductive Mismatch where
  | missingField (name : String)
  | duplicateField (name : String)
  | invalidType (found : Found) (expected : String)
  | invalidValue (found : Found) (expected : String)
  | invalidLength (length : Nat) (expected : String)
  | unknownVariant (name : String) (expected : String)
  /-- A value that was read, but is refused. -/
  | refused (reason : String)
  deriving DecidableEq

def Mismatch.message : Mismatch → String
  | missingField name => s!"missing field `{name}`"
  | duplicateField name => s!"duplicate field `{name}`"
  | invalidType found expected => s!"invalid type: {found.message}, expected {expected}"
  | invalidValue found expected => s!"invalid value: {found.message}, expected {expected}"
  | invalidLength length expected => s!"invalid length {length}, expected {expected}"
  | unknownVariant name expected => s!"unknown variant `{name}`, expected {expected}"
  | refused reason => reason

end LongSuffix
