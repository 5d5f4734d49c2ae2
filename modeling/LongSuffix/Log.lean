import LongSuffix.Text.Quoted

/-!
# Log events

An event has a level, a target that says where it comes from, a message and fields. A filter says
which events are shown.
-/

namespace LongSuffix.Log

inductive Level where
  | error
  | warn
  | info
  | debug
  | trace
  deriving DecidableEq

namespace Level

/-- Padded to five characters. -/
def text : Level → String
  | error => "ERROR"
  | warn => " WARN"
  | info => " INFO"
  | debug => "DEBUG"
  | trace => "TRACE"

/-- How much is shown at a level: each level shows those above it too. -/
def rank : Level → Nat
  | error => 1
  | warn => 2
  | info => 3
  | debug => 4
  | trace => 5

end Level

structure Event where
  level : Level
  target : String
  message : String
  fields : List (String × String)

/-- The event on one line. -/
def Event.render (e : Event) : String :=
  e.level.text ++ " " ++ e.target ++ ": " ++ e.message
    ++ String.join (e.fields.map fun (key, value) => s!" {key}={value}")

end LongSuffix.Log
