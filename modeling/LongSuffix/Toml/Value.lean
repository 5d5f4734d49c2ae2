/-!
# TOML documents

A document is a table of keys and items in the order of the text. Items know where they stand, so
that what is wrong with one can be told with its place.
-/

namespace LongSuffix.Toml

structure Key where
  text : List Char
  offset : Nat

inductive Scalar where
  | text (s : List Char)
  | integer (n : Int)
  | float (x : Float)
  | boolean (b : Bool)
  /-- A date, a time, or both. -/
  | date

/-- How a table came about. -/
inductive TableKind where
  /-- By a header of its own. -/
  | header
  /-- By a header of a table below it. -/
  | passed
  /-- By a key with dots. -/
  | dotted
  /-- In braces. -/
  | inline
  deriving DecidableEq

inductive Item where
  | scalar (offset : Nat) (value : Scalar)
  | array (offset : Nat) (items : List Item)
  | table (offset : Nat) (kind : TableKind) (entries : List (Key × Item))
  /-- The tables whose headers have double brackets. -/
  | tables (offset : Nat) (items : List Item)

/-- Where an item stands: a value at its start, a table at its header or else at its key. -/
def Item.offset : Item → Nat
  | scalar offset _ | array offset _ | table offset _ _ | tables offset _ => offset

/-! ## Building tables -/

/-- A table that can still be added to. -/
structure Table where
  offset : Nat
  kind : TableKind
  entries : List (Key × Item)

namespace Table

def item (t : Table) : Item := .table t.offset t.kind t.entries

def find? (t : Table) (key : Key) : Option Item :=
  (t.entries.find? (·.1.text == key.text)).map (·.2)

def append (t : Table) (key : Key) (item : Item) : Table :=
  { t with entries := t.entries ++ [(key, item)] }

def erase (t : Table) (key : Key) : Table :=
  { t with entries := t.entries.filter (·.1.text != key.text) }

def replace (t : Table) (key : Key) (item : Item) : Table :=
  { t with entries := t.entries.map fun (k, old) => (k, if k.text == key.text then item else old) }

/-- Whether a path may lead through a table. Keys with dots do not add to a table that has a header,
and nothing adds to a table in braces. -/
def isOpen (dotted : Bool) : TableKind → Bool
  | .inline => false
  | .header => !dotted
  | .passed | .dotted => true

/-- Changes the table that a path leads to. Tables on the way that are not there are made; of
tables with double brackets the last one counts. -/
def modifyAt (dotted : Bool) (f : Table → Option Table) : List Key → Table → Option Table
  | [], t => f t
  | key :: path, t =>
    match t.find? key with
    | none => do
      let kind := if dotted then .dotted else .passed
      let child ← modifyAt dotted f path ⟨key.offset, kind, []⟩
      return t.append key child.item
    | some (.table offset kind entries) =>
      if isOpen dotted kind then do
        let child ← modifyAt dotted f path ⟨offset, kind, entries⟩
        return t.replace key child.item
      else none
    | some (.tables first items) =>
      match items.getLast? with
      | some (.table offset kind entries) => do
        let child ← modifyAt dotted f path ⟨offset, kind, entries⟩
        return t.replace key (.tables first (items.dropLast ++ [child.item]))
      | _ => none
    | some _ => none

/-- Adds an entry under a key with dots. The table it goes into is made by such keys alone. -/
def insert (path : List Key) (key : Key) (item : Item) (t : Table) : Option Table :=
  t |> modifyAt true
    (fun target =>
      if (target.kind == .dotted) == path.isEmpty then none
      else if (target.find? key).isSome then none
      else some (target.append key item))
    path

/-- Defines a table by a header. It may be there already because of tables below it; then it moves
to the end. -/
def define (path : List Key) (key : Key) (offset : Nat) (t : Table) : Option Table :=
  t |> modifyAt false
    (fun parent =>
      match parent.find? key with
      | none => some (parent.append key (.table offset .header []))
      | some (.table _ .passed entries) =>
        some ((parent.erase key).append key (.table offset .header entries))
      | some _ => none)
    path

/-- Adds one more table to those under a header with double brackets. -/
def push (path : List Key) (key : Key) (offset : Nat) (t : Table) : Option Table :=
  let new : Item := .table offset .header []
  t |> modifyAt false
    (fun parent =>
      match parent.find? key with
      | none => some (parent.append key (.tables offset [new]))
      | some (.tables first items) => some (parent.replace key (.tables first (items ++ [new])))
      | some _ => none)
    path

end Table

end LongSuffix.Toml
