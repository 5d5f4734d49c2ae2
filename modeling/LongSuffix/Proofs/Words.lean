import LongSuffix.Proofs.Batch
import Mathlib.Algebra.GroupWithZero.Nat

/-!
# Batches in machine words

The numbers of a batch are lines, columns, byte offsets and lengths. Here the batch is written down once
more, with each addition and subtraction made by an arithmetic that is left open: that of 64-bit words
which wrap around, or one that stops the program where a result is no word.

Positions, spans and lines that can be addressed at all never lead to a number that is no word, even where
a number is worked out that nobody asks for, and even where a span runs backwards. So both arithmetics come
to what the batch comes to in numbers of any size (`Arithmetic.fix_in_words`).
-/

namespace LongSuffix

/-- How a program adds and subtracts; none where this stops it. -/
structure Arithmetic where
  add : Nat → Nat → Option Nat
  sub : Nat → Nat → Option Nat

namespace Arithmetic

/-- Words that wrap around. -/
def wrapping : Arithmetic where
  add a b := some (UInt64.ofNat a + UInt64.ofNat b).toNat
  sub a b := some (UInt64.ofNat a - UInt64.ofNat b).toNat

/-- Words, where a result that is no word stops the program. -/
def checked : Arithmetic where
  add a b := if a + b < 2 ^ 64 then some (a + b) else none
  sub a b := if b ≤ a ∧ a - b < 2 ^ 64 then some (a - b) else none

variable (A : Arithmetic)

/-- The arithmetic is right wherever its results are words. -/
structure Faithful : Prop where
  add : ∀ {a b}, a + b < 2 ^ 64 → A.add a b = some (a + b)
  sub : ∀ {a b}, b ≤ a → a < 2 ^ 64 → A.sub a b = some (a - b)

theorem faithful_wrapping : wrapping.Faithful where
  add {a b} h := by
    simp only [wrapping, UInt64.toNat_add, UInt64.toNat_ofNat', Option.some.injEq]
    omega
  sub {a b} h ha := by
    simp only [wrapping, UInt64.toNat_sub, UInt64.toNat_ofNat', Option.some.injEq]
    omega

theorem faithful_checked : checked.Faithful where
  add h := if_pos h
  sub h ha := if_pos ⟨h, by omega⟩

/-! ## The batch -/

def lineIndex (p : Position) : Option Nat := A.sub p.line 1

def columnIndex (p : Position) : Option Nat := A.sub p.column 1

/-- Counts the characters of a text, going on from `n`. -/
def countFrom (n : Nat) : List Char → Option Nat
  | [] => some n
  | _ :: rest => do countFrom (← A.add n 1) rest

def resolve (d : Document) (p : Position) : Option (Except AddressError (List Char × Char)) := do
  match d.line? (← A.lineIndex p) with
  | none => return .error (.lineOutOfRange p.line d.lineCount)
  | some text =>
    match text[← A.columnIndex p]? with
    | none => return .error (.columnOutOfRange p.line p.column (← A.countFrom 0 text))
    | some found => return .ok (text, found)

def suffix (lineIndex column : Nat) : Option LineEdit := do
  return ⟨lineIndex, column, ← A.add column 1, ['L'], ['l']⟩

def locateByCoordinate (d : Document) (p : Position) : Option Located := do
  match ← A.resolve d p with
  | .error e => return .outOfBounds e
  | .ok (line, found) =>
    let column ← A.columnIndex p
    if found = 'l' ∧ endsNumber line column then
      return .edit (← A.suffix (← A.lineIndex p) column)
    else return .noMatch found

def lastColumn (s : Span) : Option (Option Nat) := do
  let column ← A.sub s.stop.column 1
  return if 1 ≤ column then some column else none

def correctAt (t : Literal) (p : Position) : Option Correction := do
  if t.isLowercaseLong ∧ (← A.lastColumn t.span) = some p.column then
    if t.span.isSingleLine then
      if p.line = t.span.start.line then
        match upperSuffix? t.text with
        | some text => return .corrected p text
        | none => return .unchanged
      else return .unchanged
    else if p.line = t.span.start.line ∨ p.line = t.span.stop.line then
      return .unsupported (.multiLine t.span)
    else return .unchanged
  else return .unchanged

def locateInTokens (p : Position) (found : Char) : List Literal → Option Located
  | [] => some (.noMatch found)
  | t :: rest => do
    match ← A.correctAt t p with
    | .unchanged => locateInTokens p found rest
    | .unsupported reason => return .unsupported reason
    | .corrected _ text =>
      return .edit (.token (← A.lineIndex t.span.start) (← A.columnIndex t.span.start)
        (← A.columnIndex t.span.stop) t.text text)

def locateByRange (tokens : List Literal) (d : Document) (p : Position) : Option Located := do
  match ← A.resolve d p with
  | .error e => return .outOfBounds e
  | .ok (_, found) => A.locateInTokens p found tokens

def locate : Locator → Document → Position → Option Located
  | .coordinate => A.locateByCoordinate
  | .range tokens => A.locateByRange tokens

def offsetsFrom (n : Nat) : List Char → Option (List Nat)
  | [] => some [n]
  | c :: rest => do return n :: (← offsetsFrom (← A.add n c.utf8Size) rest)

def byteRange? (line : List Char) (start stop : Nat) : Option (Option (Nat × Nat)) := do
  if stop < start then return none
  else
    match (← A.offsetsFrom 0 line).drop start with
    | [] => return none
    | first :: rest =>
      if stop = start then return some (first, first)
      else
        let k ← A.sub (← A.sub stop start) 1
        return (rest[k]?).map fun last => (first, last)

/-- The bytes of a line with another text in the place of a range. -/
def room (line newText : List Char) (first last : Nat) : Option Nat := do
  let kept ← A.sub (byteLength line) (← A.sub last first)
  A.add kept (byteLength newText)

/-- Off the boundaries of characters a line cannot be cut, and the program is stopped. Room for a new
line is made before it is put together. -/
def applyToLine (e : LineEdit) (line : List Char) : Option (Except EditError Patch) := do
  match ← A.byteRange? line e.start e.stop with
  | none =>
    return .error (.invalidColumnRange (← A.add e.lineIndex 1) e.start e.stop (← A.countFrom 0 line))
  | some (first, last) =>
    let cut ← cutBytes line first last
    if cut.inside = e.newText then return .ok ⟨false, line⟩
    else if cut.inside = e.expected then
      let _ ← A.room line e.newText first last
      return .ok ⟨true, cut.before ++ e.newText ++ cut.after⟩
    else
      return .error (.beforeTextMismatch (← A.add e.lineIndex 1) (← A.add e.start 1) e.expected
        cut.inside)

/-- The line for the error is worked out before anyone knows whether it is needed. -/
def apply (e : LineEdit) (d : Document) : Option (Except EditError (EditResult × Document)) := do
  let outside ← A.add e.lineIndex 1
  match d.line? e.lineIndex with
  | none => return .error (.lineOutOfRange outside d.lineCount)
  | some line =>
    match ← A.applyToLine e line with
    | .error err => return .error err
    | .ok ⟨false, _⟩ => return .ok (.alreadyApplied (← A.add e.lineIndex 1), d)
    | .ok ⟨true, patched⟩ =>
      return .ok (.applied (← A.add e.lineIndex 1) (← A.add e.start 1),
        (d.replaceLine e.lineIndex patched).getD d)

def attempt (loc : Locator) (d : Document) (p : Position) : Option (Attempt × Document) := do
  match ← A.locate loc d p with
  | .outOfBounds e => return (.outOfBounds e, d)
  | .noMatch found => return (.noMatch found, d)
  | .unsupported reason => return (.unsupported reason, d)
  | .edit e =>
    match ← A.apply e d with
    | .ok (.applied _ _, d') => return (.applied, d')
    | .ok (.alreadyApplied _, d') => return (.alreadyApplied, d')
    | .error err => return (.stale err, d)

def attemptAll (loc : Locator) (d : Document) : List Position → Option (List Outcome × Document)
  | [] => some ([], d)
  | p :: rest => do
    let (attempt, d') ← A.attempt loc d p
    let (outcomes, d'') ← attemptAll loc d' rest
    return (⟨p, attempt⟩ :: outcomes, d'')

/-- The inner option is that of an empty set, which is refused. -/
def fix? (loc : Locator) (d : Document) (positions : PositionSet) :
    Option (Option (FixReport × Document)) :=
  if positions.isEmpty then some none
  else do
    let (outcomes, d') ← A.attemptAll loc d positions.toList
    return some (⟨outcomes⟩, d')

end Arithmetic

/-! ## What can be addressed -/

def Position.InWords (p : Position) : Prop := p.line < 2 ^ 64 ∧ p.column < 2 ^ 64

instance (p : Position) : Decidable p.InWords := inferInstanceAs (Decidable (_ ∧ _))

/-- The bytes of each line can be counted. -/
def Document.InWords (d : Document) : Prop := ∀ l ∈ d.lines, byteLength l.text < 2 ^ 64

instance (d : Document) : Decidable d.InWords :=
  inferInstanceAs (Decidable (∀ l ∈ d.lines, byteLength l.text < 2 ^ 64))

structure Span.InWords (s : Span) : Prop where
  start : s.start.InWords
  stop : s.stop.InWords

instance (s : Span) : Decidable s.InWords :=
  decidable_of_iff (s.start.InWords ∧ s.stop.InWords)
    ⟨fun h => ⟨h.1, h.2⟩, fun h => ⟨h.start, h.stop⟩⟩

def Locator.InWords : Locator → Prop
  | coordinate => True
  | range tokens => ∀ t ∈ tokens, t.span.InWords

instance : (loc : Locator) → Decidable loc.InWords
  | .coordinate => .isTrue trivial
  | .range tokens => inferInstanceAs (Decidable (∀ t ∈ tokens, t.span.InWords))

/-- The numbers of the edit are words, also when they are counted from one; the new text has as many
bytes as the old one, so the line with the new text can be counted if the old one can. -/
structure LineEdit.InWords (e : LineEdit) : Prop where
  lineIndex : e.lineIndex + 1 < 2 ^ 64
  start : e.start + 1 < 2 ^ 64
  stop : e.stop < 2 ^ 64
  texts : byteLength e.newText = byteLength e.expected

theorem Position.InWords.lineIndex {p : Position} (hp : p.InWords) : p.lineIndex + 1 < 2 ^ 64 := by
  rw [lineIndex_add_one]
  exact hp.1

theorem Position.InWords.columnIndex {p : Position} (hp : p.InWords) :
    p.columnIndex + 1 < 2 ^ 64 := by
  rw [columnIndex_add_one]
  exact hp.2

theorem length_le_byteLength (s : List Char) : s.length ≤ byteLength s := by
  induction s with
  | nil => exact Nat.le_refl 0
  | cons c s ih =>
    have := c.utf8Size_pos
    rw [List.length_cons, byteLength_cons]
    omega

theorem Document.InWords.line? {d : Document} (hd : d.InWords) {i : Nat} {text : List Char}
    (h : d.line? i = some text) : byteLength text < 2 ^ 64 := by
  obtain ⟨l, hl, rfl⟩ := Option.map_eq_some_iff.1 h
  exact hd l (List.mem_of_getElem? hl)

theorem Document.InWords.getD_replaceLine {d : Document} (hd : d.InWords) {text : List Char}
    (h : byteLength text < 2 ^ 64) (index : Nat) :
    ((d.replaceLine index text).getD d).InWords := by
  unfold replaceLine
  split
  · exact hd
  · cases hl : d.lines[index]? with
    | none => exact hd
    | some l =>
      intro l' hl'
      rcases List.mem_or_eq_of_mem_set hl' with hmem | rfl
      · exact hd l' hmem
      · exact h

namespace LineEdit

variable {e : LineEdit} {line : List Char}

/-- A line keeps its bytes if a text is put in the place of one that has as many. -/
theorem byteLength_patched (hstart : e.start ≤ e.stop)
    (h : byteLength e.newText = byteLength (e.target line)) :
    byteLength (e.patched line) = byteLength line := by
  have hline := congrArg byteLength (take_append_slice_append_drop line hstart)
  simp only [byteLength_append] at hline
  simp only [patched, byteLength_append, h, target]
  omega

theorem InWords.apply (he : e.InWords) {d d' : Document} (hd : d.InWords) {r : EditResult}
    (h : e.apply d = .ok (r, d')) : d'.InWords := by
  unfold LineEdit.apply at h
  split at h
  · cases h
  · next line hline =>
    split at h
    · cases h
    · cases h; exact hd
    · next patched happly =>
      cases h
      rw [applyToLine_eq] at happly
      split at happly
      · cases happly
      · split at happly
        · cases happly
        · split at happly
          · next hrange _ hexp =>
            cases happly
            refine hd.getD_replaceLine ?_ _
            rw [byteLength_patched (by omega) (he.texts.trans (congrArg byteLength hexp.symm))]
            exact hd.line? hline
          · cases happly

end LineEdit

namespace Arithmetic

/-! ## One result -/

section

variable {A : Arithmetic} (hA : A.Faithful) {d : Document} {p : Position} {e : LineEdit}
include hA

theorem lineIndex_eq (hp : p.InWords) : A.lineIndex p = some p.lineIndex :=
  hA.sub p.line_pos hp.1

theorem columnIndex_eq (hp : p.InWords) : A.columnIndex p = some p.columnIndex :=
  hA.sub p.column_pos hp.2

theorem countFrom_eq {n : Nat} {s : List Char} (h : n + s.length < 2 ^ 64) :
    A.countFrom n s = some (n + s.length) := by
  induction s generalizing n with
  | nil => rfl
  | cons c s ih =>
    rw [List.length_cons] at h
    simp only [countFrom, hA.add (show n + 1 < 2 ^ 64 by omega), Option.bind_eq_bind,
      Option.bind_some]
    rw [ih (by omega), List.length_cons, Nat.add_assoc, Nat.add_comm 1]

theorem count_eq {s : List Char} (h : byteLength s < 2 ^ 64) :
    A.countFrom 0 s = some s.length := by
  have hle := length_le_byteLength s
  rw [countFrom_eq hA (by omega), Nat.zero_add]

theorem resolve_eq (hd : d.InWords) (hp : p.InWords) :
    A.resolve d p = some (LongSuffix.resolve d p) := by
  simp only [resolve, LongSuffix.resolve, lineIndex_eq hA hp, Option.bind_eq_bind, Option.bind_some]
  cases hline : d.line? p.lineIndex with
  | none => rfl
  | some text =>
    simp only [columnIndex_eq hA hp, Option.bind_some]
    cases hfound : text[p.columnIndex]? with
    | none => simp only [count_eq hA (hd.line? hline), Option.bind_some]; rfl
    | some found => rfl

theorem offsetsFrom_eq {n : Nat} {s : List Char} (h : n + byteLength s < 2 ^ 64) :
    A.offsetsFrom n s = some (LongSuffix.offsetsFrom n s) := by
  induction s generalizing n with
  | nil => rfl
  | cons c s ih =>
    rw [byteLength_cons] at h
    simp only [offsetsFrom, hA.add (show n + c.utf8Size < 2 ^ 64 by omega), Option.bind_eq_bind,
      Option.bind_some, ih (show n + c.utf8Size + byteLength s < 2 ^ 64 by omega)]
    rfl

theorem byteRange?_eq {line : List Char} {start stop : Nat} (hline : byteLength line < 2 ^ 64)
    (hstop : stop < 2 ^ 64) :
    A.byteRange? line start stop = some (LongSuffix.byteRange? line start stop) := by
  unfold byteRange? LongSuffix.byteRange?
  by_cases hlt : stop < start
  · simp only [if_pos hlt]; rfl
  simp only [if_neg hlt, offsetsFrom_eq hA (show 0 + byteLength line < 2 ^ 64 by omega),
    Option.bind_eq_bind, Option.bind_some]
  cases (LongSuffix.offsetsFrom 0 line).drop start with
  | nil => rfl
  | cons first rest =>
    by_cases heq : stop = start
    · simp only [if_pos heq]; rfl
    · -- the end comes behind the start, so one can be taken off their distance
      simp only [if_neg heq, hA.sub (show start ≤ stop by omega) hstop,
        hA.sub (show 1 ≤ stop - start by omega) (show stop - start < 2 ^ 64 by omega),
        Option.bind_some]
      rfl

/-- The room for the new line is that of the old one. -/
theorem room_eq {line : List Char} (hline : byteLength line < 2 ^ 64) (hstart : e.start ≤ e.stop)
    (htexts : byteLength e.newText = byteLength (e.target line)) :
    A.room line e.newText (byteLength (line.take e.start)) (byteLength (line.take e.stop)) =
      some (byteLength line) := by
  have hstop : byteLength (line.take e.start) + byteLength (e.target line) =
      byteLength (line.take e.stop) := by
    rw [← byteLength_append]
    exact congrArg byteLength (take_append_slice line hstart)
  have hrest : byteLength (line.take e.stop) + byteLength (line.drop e.stop) = byteLength line := by
    rw [← byteLength_append, List.take_append_drop]
  have hkept : A.sub (byteLength line) (byteLength (e.target line)) =
      some (byteLength line - byteLength (e.target line)) := hA.sub (by omega) hline
  rw [room, hA.sub (by omega) (by omega), ← hstop, Nat.add_sub_cancel_left]
  simp only [Option.bind_eq_bind, Option.bind_some, hkept]
  rw [hA.add (by omega), htexts, Nat.sub_add_cancel (by omega)]

theorem applyToLine_eq (he : e.InWords) {line : List Char} (hline : byteLength line < 2 ^ 64) :
    A.applyToLine e line = some (e.applyToLine line) := by
  rw [LineEdit.applyToLine_eq]
  simp only [applyToLine, byteRange?_eq hA hline he.stop, hA.add he.lineIndex, hA.add he.start,
    count_eq hA hline, Option.bind_eq_bind, Option.bind_some, LongSuffix.byteRange?_eq]
  by_cases hrange : e.stop < e.start ∨ line.length < e.stop
  · simp only [if_pos hrange]; rfl
  have hstart : e.start ≤ e.stop := by omega
  have hcut : cutBytes line (byteLength (line.take e.start)) (byteLength (line.take e.stop)) =
      some ⟨line.take e.start, e.target line, line.drop e.stop⟩ := cutBytes_take_drop hstart
  simp only [if_neg hrange, hcut, Option.bind_some]
  by_cases hnew : e.target line = e.newText
  · simp only [if_pos hnew]; rfl
  by_cases hexp : e.target line = e.expected
  · have hroom := room_eq hA hline hstart (he.texts.trans (congrArg byteLength hexp.symm))
    simp only [if_neg hnew, if_pos hexp, hroom, Option.bind_some]; rfl
  · simp only [if_neg hnew, if_neg hexp]; rfl

theorem apply_eq (he : e.InWords) (hd : d.InWords) : A.apply e d = some (e.apply d) := by
  simp only [apply, LineEdit.apply, hA.add he.lineIndex, hA.add he.start, Option.bind_eq_bind,
    Option.bind_some]
  cases hline : d.line? e.lineIndex with
  | none => rfl
  | some line =>
    simp only [applyToLine_eq hA he (hd.line? hline), Option.bind_some]
    rcases e.applyToLine line with err | ⟨_ | _, patched⟩ <;> rfl

/-! ## Locators -/

theorem suffix_eq (hp : p.InWords) :
    A.suffix p.lineIndex p.columnIndex = some (.suffix p.lineIndex p.columnIndex) := by
  rw [suffix, hA.add hp.columnIndex]
  rfl

-- a column that belongs to no position
example : checked.suffix 0 (2 ^ 64 - 1) = none := by decide

theorem locateByCoordinate_eq (hd : d.InWords) (hp : p.InWords) :
    A.locateByCoordinate d p = some (LongSuffix.locateByCoordinate d p) := by
  simp only [locateByCoordinate, LongSuffix.locateByCoordinate, resolve_eq hA hd hp,
    columnIndex_eq hA hp, lineIndex_eq hA hp, suffix_eq hA hp, Option.bind_eq_bind, Option.bind_some]
  rcases LongSuffix.resolve d p with e | ⟨line, found⟩
  · rfl
  · dsimp only
    split <;> rfl

theorem lastColumn_eq {s : Span} (hs : s.InWords) : A.lastColumn s = some s.lastColumn := by
  have hiff : 1 ≤ s.stop.column - 1 ↔ 1 < s.stop.column := by omega
  rw [lastColumn, hA.sub s.stop.column_pos hs.stop.2]
  simp only [Option.bind_eq_bind, Option.bind_some, hiff]
  rfl

theorem correctAt_eq {t : Literal} (ht : t.span.InWords) :
    A.correctAt t p = some (t.correctAt p) := by
  simp only [correctAt, Literal.correctAt, lastColumn_eq hA ht, Option.bind_eq_bind, Option.bind_some,
    apply_ite some]
  cases upperSuffix? t.text <;> rfl

theorem locateInTokens_eq {tokens : List Literal} (h : ∀ t ∈ tokens, t.span.InWords) (found : Char) :
    A.locateInTokens p found tokens = some (LongSuffix.locateInTokens p found tokens) := by
  induction tokens with
  | nil => rfl
  | cons t rest ih =>
    obtain ⟨ht, hrest⟩ := List.forall_mem_cons.1 h
    simp only [locateInTokens, LongSuffix.locateInTokens, correctAt_eq hA ht, Option.bind_eq_bind,
      Option.bind_some]
    cases t.correctAt p with
    | unchanged => exact ih hrest
    | unsupported reason => rfl
    | corrected q text =>
      simp only [lineIndex_eq hA ht.start, columnIndex_eq hA ht.start, columnIndex_eq hA ht.stop,
        Option.bind_some]
      rfl

theorem locate_eq {loc : Locator} (hloc : loc.InWords) (hd : d.InWords) (hp : p.InWords) :
    A.locate loc d p = some (loc.locate d p) := by
  cases loc with
  | coordinate => exact locateByCoordinate_eq hA hd hp
  | range tokens =>
    simp only [locate, locateByRange, Locator.locate, LongSuffix.locateByRange, resolve_eq hA hd hp,
      Option.bind_eq_bind, Option.bind_some]
    rcases LongSuffix.resolve d p with e | ⟨line, found⟩
    · rfl
    · exact locateInTokens_eq hA hloc found

end

end Arithmetic

/-! ## Edits that are located -/

theorem LineEdit.inWords_suffix {p : Position} (hp : p.InWords) :
    (suffix p.lineIndex p.columnIndex).InWords where
  lineIndex := hp.lineIndex
  start := hp.columnIndex
  stop := hp.columnIndex
  texts := rfl

/-- A letter is raised to one of as many bytes. -/
theorem LineEdit.AimsAt.byteLength_newText {e : LineEdit} {p : Position} (h : e.AimsAt p) :
    byteLength e.newText = byteLength e.expected := by
  obtain ⟨digits, -, hexpected, hnew⟩ := h.texts
  rw [hexpected, hnew, byteLength_append, byteLength_append]
  rfl

theorem Literal.inWords_token {t : Literal} (ht : t.span.InWords) {p q : Position} {text : List Char}
    (hc : t.correctAt p = .corrected q text) :
    (LineEdit.token t.span.start.lineIndex t.span.start.columnIndex t.span.stop.columnIndex t.text
      text).InWords where
  lineIndex := ht.start.lineIndex
  start := ht.start.columnIndex
  stop := Nat.lt_of_succ_lt ht.stop.columnIndex
  texts := (aimsAt_of_corrected hc).byteLength_newText

theorem inWords_of_locateInTokens {tokens : List Literal} (h : ∀ t ∈ tokens, t.span.InWords)
    {p : Position} {found : Char} {e : LineEdit} (he : locateInTokens p found tokens = .edit e) :
    e.InWords := by
  induction tokens with
  | nil => cases he
  | cons t rest ih =>
    obtain ⟨ht, hrest⟩ := List.forall_mem_cons.1 h
    rw [locateInTokens] at he
    split at he
    · exact ih hrest he
    · cases he
    · next hc => cases he; exact Literal.inWords_token ht hc

namespace Locator

variable {loc : Locator} {d : Document} {p : Position}

theorem InWords.locate (hloc : loc.InWords) (hp : p.InWords) {e : LineEdit}
    (he : loc.locate d p = .edit e) : e.InWords := by
  cases loc with
  | coordinate =>
    simp only [Locator.locate, locateByCoordinate] at he
    split at he
    · cases he
    · split at he
      · cases he; exact LineEdit.inWords_suffix hp
      · cases he
  | range tokens =>
    simp only [Locator.locate, locateByRange] at he
    split at he
    · cases he
    · exact inWords_of_locateInTokens hloc he

/-- An attempt leaves lines that can be counted. -/
theorem InWords.attempt (hloc : loc.InWords) (hd : d.InWords) (hp : p.InWords) :
    (loc.attempt d p).2.InWords := by
  rw [Locator.attempt]
  cases hlocated : loc.locate d p with
  | outOfBounds e => exact hd
  | noMatch found => exact hd
  | unsupported reason => exact hd
  | edit e =>
    have he := hloc.locate hp hlocated
    dsimp only
    rcases happly : e.apply d with err | ⟨_ | _, d'⟩
    · exact hd
    · exact he.apply hd happly
    · exact he.apply hd happly

end Locator

/-! ## Batches -/

namespace Arithmetic

section

variable {A : Arithmetic} (hA : A.Faithful) {loc : Locator} (hloc : loc.InWords) {d : Document}
include hA hloc

theorem attempt_eq (hd : d.InWords) {p : Position} (hp : p.InWords) :
    A.attempt loc d p = some (loc.attempt d p) := by
  simp only [attempt, Locator.attempt, locate_eq hA hloc hd hp, Option.bind_eq_bind,
    Option.bind_some]
  cases hlocated : loc.locate d p with
  | outOfBounds e => rfl
  | noMatch found => rfl
  | unsupported reason => rfl
  | edit e =>
    simp only [apply_eq hA (hloc.locate hp hlocated) hd, Option.bind_some]
    rcases e.apply d with err | ⟨_ | _, d'⟩ <;> rfl

/-- Induction over the positions: each attempt leaves a document whose lines can be counted. -/
theorem attemptAll_eq (hd : d.InWords) {ps : List Position} (hps : ∀ p ∈ ps, p.InWords) :
    A.attemptAll loc d ps = some (loc.attemptAll d ps) := by
  induction ps generalizing d with
  | nil => rfl
  | cons p rest ih =>
    obtain ⟨hp, hrest⟩ := List.forall_mem_cons.1 hps
    simp only [attemptAll, attempt_eq hA hloc hd hp, ih (hloc.attempt hd hp) hrest,
      Option.bind_eq_bind, Option.bind_some]
    rfl

theorem fix?_eq (hd : d.InWords) {ps : PositionSet} (hps : ∀ p ∈ ps, p.InWords) :
    A.fix? loc d ps = some (loc.fix? d ps) := by
  rw [fix?, Locator.fix?, attemptAll_eq hA hloc hd hps]
  split <;> rfl

end

/-- **No number of a batch leaves the words.** Every addition and subtraction has a result that is one, so
a program that checks them is not stopped, and one that lets them wrap around comes to the same result: that
of numbers of any size. The tokens are any, also with spans that run backwards. -/
theorem fix_in_words (loc : Locator) (d : Document) (ps : PositionSet) (hloc : loc.InWords)
    (hd : d.InWords) (hps : ∀ p ∈ ps, p.InWords) :
    checked.fix? loc d ps = some (loc.fix? d ps) ∧ wrapping.fix? loc d ps = some (loc.fix? d ps) :=
  ⟨fix?_eq faithful_checked hloc hd hps, fix?_eq faithful_wrapping hloc hd hps⟩

/-- The last position there is, and a span that starts in the last column and runs backwards. -/
theorem fix_in_words_sample :
    let last := 2 ^ 64 - 1
    let tokens : List Literal := [⟨.decimal, "2l".toList, ⟨.mk 1 last, .mk 1 3⟩⟩,
      ⟨.decimal, "1l".toList, ⟨.mk 1 5, .mk 1 7⟩⟩]
    let d := Document.ofLines ["2l, 1l".toList]
    let ps : PositionSet := ⟨[.mk 1 2, .mk 1 6, .mk 1 last, .mk last last], by decide⟩
    checked.fix? (.range tokens) d ps =
      some (some (⟨[⟨.mk 1 2, .stale (.invalidColumnRange 1 (last - 1) 2 6)⟩, ⟨.mk 1 6, .applied⟩,
        ⟨.mk 1 last, .outOfBounds (.columnOutOfRange 1 last 6)⟩,
        ⟨.mk last last, .outOfBounds (.lineOutOfRange last 1)⟩]⟩, .ofLines ["2l, 1L".toList])) ∧
    wrapping.fix? .coordinate d ps = some (Locator.coordinate.fix? d ps) := by
  intro last tokens d ps
  have hd : d.InWords := by decide
  have hps : ∀ p ∈ ps.toList, p.InWords := by decide
  have hrange := fix_in_words (.range tokens) d ps (by decide) hd hps
  exact ⟨hrange.1.trans (by decide), (fix_in_words .coordinate d ps trivial hd hps).2⟩

end Arithmetic

end LongSuffix
