import LongSuffix.Log
import LongSuffix.Text.Numeral

/-!
# Log filters

A filter is a list of directives with commas between them: a level for everything, or a level for
the targets that start with a text. Of the directives that are about an event's target the one with
the longest text decides.
-/

namespace LongSuffix.Log

structure Directive where
  /-- How the targets start; empty for all of them. -/
  target : List Char
  /-- Levels up to this rank are shown; zero shows nothing. -/
  rank : Nat
  deriving DecidableEq

abbrev Filter := List Directive

namespace Filter

def levelNames : List (String × Nat) :=
  [("off", 0), ("error", 1), ("warn", 2), ("info", 3), ("debug", 4), ("trace", 5),
   ("0", 0), ("1", 1), ("2", 2), ("3", 3), ("4", 4), ("5", 5)]

/-- A level by its name, in any case, or its number. -/
def rank? (cs : List Char) : Option Nat :=
  (levelNames.find? (·.1.toList == cs.map Char.toLower)).map (·.2)

def isTargetChar (c : Char) : Bool := c.isAlphanum || c == '_' || c == ':' || c == '-'

def isTarget (cs : List Char) : Bool := !cs.isEmpty && cs.all isTargetChar

/-- A level, a target with a level, or a target of which everything is shown. -/
def directive? (cs : List Char) : Option Directive :=
  match rank? cs with
  | some rank => some ⟨[], rank⟩
  | none =>
    let target := cs.takeWhile (· != '=')
    if isTarget target then
      match cs.drop target.length with
      | [] | ['='] => some ⟨target, 5⟩
      | _ :: level => (rank? level).map (⟨target, ·⟩)
    else none

/-- The parts of a text between commas. -/
def parts : List Char → List (List Char)
  | [] => [[]]
  | c :: rest =>
    if c = ',' then [] :: parts rest
    else
      match parts rest with
      | [] => [[c]]
      | part :: more => (c :: part) :: more

/-- The filter in a text. One without directives shows errors. -/
def parse? (text : String) : Option Filter :=
  match (parts text.toList).filter (!·.isEmpty) with
  | [] => some [⟨[], 1⟩]
  | ds => ds.mapM directive?

/-- Of two directives that are about a target, the one that decides. -/
def stronger (a b : Directive) : Directive := if a.target.length ≤ b.target.length then b else a

/-- Whether an event is shown. -/
def shows (f : Filter) (e : Event) : Bool :=
  match f.filter (·.target.isPrefixOf e.target.toList) with
  | [] => false
  | d :: ds => e.level.rank ≤ (ds.foldl stronger d).rank

end Filter

end LongSuffix.Log
