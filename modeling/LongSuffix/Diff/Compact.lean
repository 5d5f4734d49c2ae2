import LongSuffix.Diff.Script

/-!
# Shifting insertions

A run of insertions next to kept elements can often be moved without changing what the script does.
Insertions are moved down as far as they go, and runs that meet are joined.
-/

namespace LongSuffix.Diff

/-- A script with one step in focus; the steps before it are in reverse. -/
structure Focus (α : Type) where
  before : Script α
  step : Step α
  after : Script α

section

variable {α : Type} [DecidableEq α]

/-- Puts kept elements in front of a script. -/
def keepFront (items : List α) : Script α → Script α
  | ⟨.keep, more⟩ :: rest => ⟨.keep, items ++ more⟩ :: rest
  | rest => ⟨.keep, items⟩ :: rest

/-- Puts kept elements at the end of a script in reverse. -/
def keepBack (items : List α) : Script α → Script α
  | ⟨.keep, more⟩ :: rest => ⟨.keep, more ++ items⟩ :: rest
  | rest => ⟨.keep, items⟩ :: rest

def nonempty (s : Step α) (rest : Script α) : Script α := if s.items.isEmpty then rest else s :: rest

/-- Moves the step in focus up as far as it goes. -/
def shiftUp (f : Focus α) : (fuel : Nat) → Focus α
  | 0 => f
  | fuel + 1 =>
    match f.before with
    | [] => f
    | prev :: before =>
      match prev.tag with
      | .keep =>
        let n := if f.step.tag = .insert then commonSuffixLength prev.items f.step.items else 0
        if n = 0 then f
        else
          let moved := prev.items.drop (prev.items.length - n)
          let kept := prev.items.take (prev.items.length - n)
          shiftUp
            ⟨nonempty ⟨.keep, kept⟩ before,
              ⟨f.step.tag, moved ++ f.step.items.take (f.step.items.length - n)⟩,
              keepFront moved f.after⟩ fuel
      | tag =>
        if tag = f.step.tag then shiftUp ⟨before, ⟨tag, prev.items ++ f.step.items⟩, f.after⟩ fuel
        else shiftUp ⟨before, f.step, prev :: f.after⟩ fuel

/-- Moves the step in focus down as far as it goes. -/
def shiftDown (f : Focus α) : (fuel : Nat) → Focus α
  | 0 => f
  | fuel + 1 =>
    match f.after with
    | [] => f
    | next :: after =>
      match next.tag with
      | .keep =>
        let n := if f.step.tag = .insert then commonPrefixLength next.items f.step.items else 0
        if n = 0 then f
        else
          let moved := next.items.take n
          shiftDown
            ⟨keepBack moved f.before, ⟨f.step.tag, f.step.items.drop n ++ moved⟩,
              nonempty ⟨.keep, next.items.drop n⟩ after⟩ fuel
      | tag =>
        if tag = f.step.tag then shiftDown ⟨f.before, ⟨tag, f.step.items ++ next.items⟩, after⟩ fuel
        else shiftDown ⟨next :: f.before, f.step, after⟩ fuel

/-- Shifts all steps with a tag, from the top down. -/
def settle (tag : Tag) (size : Nat) (before after : Script α) : (fuel : Nat) → Script α
  | 0 => before.reverse ++ after
  | fuel + 1 =>
    match after with
    | [] => before.reverse
    | step :: after =>
      if step.tag = tag then
        let f := shiftDown (shiftUp ⟨before, step, after⟩ size) size
        settle tag size (f.step :: f.before) f.after fuel
      else settle tag size (step :: before) after fuel

/-- The differences between two lists. -/
def changes (old new : List α) : Script α :=
  let size := 4 * (old.length + new.length) + 8
  let plain := script old new size
  settle .insert size [] (settle .delete size [] plain size) size

end

/-! ## Lines -/

/-- Cuts a text into lines that keep their ends: a newline, a return, or both. -/
def lines : List Char → List (List Char)
  | [] => []
  | '\r' :: '\n' :: rest => ['\r', '\n'] :: lines rest
  | c :: rest =>
    if c == '\n' || c == '\r' then [c] :: lines rest
    else
      match lines rest with
      | [] => [[c]]
      | line :: more => (c :: line) :: more

/-- A changed line as it is shown. The last one may lack a newline. -/
def shown (sign : Char) (line : List Char) : List Char :=
  let complete := line.getLast? == some '\n' || line.getLast? == some '\r'
  sign :: line ++ if complete then [] else ['\n']

/-- The lines of a script in the order they are shown: of a run of changes all deletions come before
all insertions. -/
def ordered : List (Step (List Char)) → (deleted inserted : List (List Char)) →
    List (Tag × List Char)
  | [], deleted, inserted => flush deleted inserted
  | ⟨.keep, _⟩ :: rest, deleted, inserted => flush deleted inserted ++ ordered rest [] []
  | ⟨.delete, items⟩ :: rest, deleted, inserted => ordered rest (deleted ++ items) inserted
  | ⟨.insert, items⟩ :: rest, deleted, inserted => ordered rest deleted (inserted ++ items)
where
  flush (deleted inserted : List (List Char)) : List (Tag × List Char) :=
    deleted.map (Tag.delete, ·) ++ inserted.map (Tag.insert, ·)

/-- The changed lines between two texts, each with its sign. -/
def changedLines (before after : String) : List (Tag × String) :=
  (ordered (changes (lines before.toList) (lines after.toList)) [] []).map fun (tag, line) =>
    (tag, String.ofList (shown (if tag = .delete then '-' else '+') line))

end LongSuffix.Diff
