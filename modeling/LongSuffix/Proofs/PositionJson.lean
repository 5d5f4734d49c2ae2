import LongSuffix.Proofs.JsonLexemes
import LongSuffix.Proofs.JsonValues

/-!
# Positions in JSON texts

A text gives a line and a column if it is an object that has each of the two names once, with a number
of 64 bits under it, or an array of two such numbers (`Gives`). Other members of the object may hold
any values and stand anywhere. What a text gives is what is read from it, and the text of a position
gives the position back (`readPosition_decides`).

While an object is read, the values of a name are those that were read and those to come
(`Fields.values`). A member moves one of them from the second part to the first, or is skipped
(`Fields.Adds`), so that the whole stays as it is.
-/

namespace LongSuffix.Json

/-! ## Members of an object -/

/-- A member of an object, of any value. Half of a pair of surrogates makes no name. -/
structure Member where
  name : List Char
  value : List Token
  derives : Derives .value value

namespace Member

def tokens (m : Member) : List Token := .text (some m.name) :: .colon :: m.value

/-- Members with commas between them. -/
def row : List Member → List Token
  | [] => []
  | [m] => m.tokens
  | m :: m' :: ms => m.tokens ++ .comma :: row (m' :: ms)

theorem row_cons (m : Member) (ms : List Member) :
    ∃ after, row (m :: ms) = .text (some m.name) :: after := by
  cases ms with
  | nil => exact ⟨_, rfl⟩
  | cons m' ms => exact ⟨_, rfl⟩

/-- The values of all members of a name. -/
def named (name : String) (ms : List Member) : List (List Token) :=
  (ms.filter (·.name = name.toList)).map value

theorem named_cons_self {name : String} {m : Member} {ms : List Member} (h : m.name = name.toList) :
    named name (m :: ms) = m.value :: named name ms := by
  rw [named, List.filter_cons_of_pos (by simpa using h)]
  rfl

theorem named_cons_of_ne {name : String} {m : Member} {ms : List Member} (h : m.name ≠ name.toList) :
    named name (m :: ms) = named name ms := by
  rw [named, List.filter_cons_of_neg (by simpa using h)]
  rfl

end Member

def numeral (n : Nat) : List Token := [.number (.natural n)]

/-- The tokens of a position: an object that has both names once, or an array. -/
inductive Coordinates (line column : Nat) : List Token → Prop where
  | object {ms : List Member} (hline : Member.named "line" ms = [numeral line])
    (hcolumn : Member.named "column" ms = [numeral column]) :
    Coordinates line column (.openObject :: (Member.row ms ++ [.closeObject]))
  | array : Coordinates line column
    (.openArray :: (numeral line ++ .comma :: (numeral column ++ [.closeArray])))

/-- The text is that of an object or an array with this line and this column. -/
def Gives (text : String) (line column : Nat) : Prop :=
  ∃ ts, Lexes text.toList ts ∧ Coordinates line column ts

/-! ## Fields -/

namespace Field

/-- A line and a column by their fields. -/
def pick (line column : Nat) : Field → Nat
  | .line => line
  | .column => column

theorem name_injective {field field' : Field} (h : field.name.toList = field'.name.toList) :
    field = field' := by
  revert h
  cases field <;> cases field' <;> decide

theorem ofName?_eq_some_iff {name : List Char} {field : Field} :
    ofName? name = some field ↔ name = field.name.toList := by
  constructor
  · intro h
    exact (eq_of_beq (List.find?_some h :)).symm
  · rintro rfl
    cases field <;> decide

end Field

theorem numeral_injective {m n : Nat} (h : numeral m = numeral n) : m = n := by
  cases h
  rfl

theorem of_readCount {n : Nat} {ts rest : List Token} (h : readCount ts = .ok (n, rest)) :
    ts = numeral n ++ rest := by
  unfold readCount at h
  split at h <;> cases h
  rfl

namespace Fields

theorem get?_set_self (f : Fields) (n : Nat) (field : Field) :
    (f.set n field).get? field = some n := by
  cases field <;> rfl

theorem get?_set_of_ne (f : Fields) (n : Nat) {field field' : Field} (h : field' ≠ field) :
    (f.set n field).get? field' = f.get? field' := by
  cases field with
  | line =>
    cases field' with
    | line => exact absurd rfl h
    | column => rfl
  | column =>
    cases field' with
    | line => rfl
    | column => exact absurd rfl h

theorem both_eq_ok_iff {f : Fields} {line column : Nat} :
    f.both = .ok (line, column) ↔ ∀ field, f.get? field = some (field.pick line column) := by
  obtain ⟨l, c⟩ := f
  constructor
  · intro h field
    cases l with
    | none => cases h
    | some l =>
      cases c with
      | none => cases h
      | some c =>
        cases h
        cases field <;> rfl
  · intro h
    obtain rfl : l = some line := h .line
    obtain rfl : c = some column := h .column
    rfl

/-- The values under the name of a field: what was read of it, and what the members have. -/
def values (f : Fields) (ms : List Member) (field : Field) : List (List Token) :=
  ((f.get? field).map numeral).toList ++ Member.named field.name ms

theorem values_none_iff {ms : List Member} {line column : Nat} :
    (∀ field, values ⟨none, none⟩ ms field = [numeral (field.pick line column)]) ↔
      Member.named "line" ms = [numeral line] ∧ Member.named "column" ms = [numeral column] := by
  refine ⟨fun h => ⟨h .line, h .column⟩, fun h field => ?_⟩
  cases field with
  | line => exact h.1
  | column => exact h.2

theorem values_nil_iff {f : Fields} {field : Field} {n : Nat} :
    f.values [] field = [numeral n] ↔ f.get? field = some n := by
  unfold values
  cases f.get? field with
  | none => simp [Member.named]
  | some m =>
    constructor
    · intro h
      rw [numeral_injective (List.cons.inj h).1]
    · rintro h
      cases h
      rfl

/-- What a member adds to the fields: nothing, if its name is none of theirs. -/
inductive Adds (f : Fields) (m : Member) : Fields → Prop where
  | other (h : Field.ofName? m.name = none) : Adds f m f
  | field {field : Field} {n : Nat} (hname : m.name = field.name.toList)
    (hfirst : f.get? field = none) (hvalue : m.value = numeral n) : Adds f m (f.set n field)

section

variable {f f' : Fields} {m : Member} {rest ts : List Token}

/-- A member that is read is a value less to come, and that value was read. -/
theorem Adds.values_eq (h : Adds f m f') (ms : List Member) (field : Field) :
    f.values (m :: ms) field = f'.values ms field := by
  cases h with
  | other h =>
    rw [values, Member.named_cons_of_ne]
    · rfl
    · intro hname
      rw [Field.ofName?_eq_some_iff.2 hname] at h
      cases h
  | @field field₁ n hname hfirst hvalue =>
    by_cases heq : field = field₁
    · subst heq
      rw [values, values, hfirst, get?_set_self, Member.named_cons_self hname, hvalue]
      rfl
    · rw [values, values, get?_set_of_ne f n heq, Member.named_cons_of_ne]
      exact fun hname' => heq (Field.name_injective (hname'.symm.trans hname))

/-- A member can be read, if there is one number in all for each field. -/
theorem exists_adds {ms : List Member} {n : Field → Nat}
    (h : ∀ field, f.values (m :: ms) field = [numeral (n field)]) : ∃ f', Adds f m f' := by
  cases hname : Field.ofName? m.name with
  | none => exact ⟨f, .other hname⟩
  | some field =>
    have hname := Field.ofName?_eq_some_iff.1 hname
    have hvalues := h field
    rw [values, Member.named_cons_self hname] at hvalues
    cases hget : f.get? field with
    | none =>
      rw [hget] at hvalues
      exact ⟨_, .field hname hget (List.cons.inj hvalues).1⟩
    | some k =>
      -- a second value
      rw [hget] at hvalues
      cases (List.cons.inj hvalues).2

theorem readField_of_adds (h : Adds f m f') :
    readField f m.name (.colon :: (m.value ++ rest)) = .ok (f', rest) := by
  cases h with
  | other h =>
    have hskip : skip [] .value (m.value ++ rest) = some rest :=
      skip_eq_some_iff.2 ⟨m.value, rfl, m.derives⟩
    simp [readField, h, skipValue, hskip, Except.map]
  | field hname hfirst hvalue =>
    rw [readField, Field.ofName?_eq_some_iff.2 hname, hvalue]
    simp [hfirst, numeral, readCount, Except.map]

theorem adds_of_readField {key : List Char} (h : readField f key ts = .ok (f', rest)) :
    ∃ m : Member, m.name = key ∧ ts = .colon :: (m.value ++ rest) ∧ Adds f m f' := by
  unfold readField at h
  split at h
  · next hname =>
    split at h
    · next after =>
      cases hskip : skip [] .value after with
      | none =>
        rw [skipValue, hskip] at h
        cases h
      | some rest' =>
        rw [skipValue, hskip] at h
        cases h
        obtain ⟨v, rfl, hv⟩ := skip_eq_some_iff.1 hskip
        exact ⟨⟨key, v, hv⟩, rfl, rfl, .other hname⟩
    · cases h
  · next field hname =>
    split at h
    · cases h
    · next hfirst =>
      split at h
      · next after =>
        cases hcount : readCount after with
        | error e =>
          rw [hcount] at h
          cases h
        | ok r =>
          obtain ⟨n, rest'⟩ := r
          rw [hcount] at h
          cases h
          refine ⟨⟨key, numeral n, .scalar (.number _)⟩, rfl, by rw [of_readCount hcount], ?_⟩
          exact .field (Field.ofName?_eq_some_iff.1 hname) (Option.not_isSome_iff_eq_none.1 hfirst) rfl
      · cases h

/-! ## Objects -/

theorem readFields_row {ms : List Member} {line column : Nat} (hne : ms ≠ [])
    (h : ∀ field, f.values ms field = [numeral (field.pick line column)]) :
    readFields f (Member.row ms ++ .closeObject :: rest) = .ok ((line, column), rest) := by
  induction ms generalizing f with
  | nil => exact absurd rfl hne
  | cons m ms ih =>
    obtain ⟨f', hadds⟩ := exists_adds h
    have hf' (field : Field) : f'.values ms field = [numeral (field.pick line column)] :=
      (hadds.values_eq ms field).symm.trans (h field)
    cases ms with
    | nil =>
      have hboth : f'.both = .ok (line, column) :=
        both_eq_ok_iff.2 fun field => values_nil_iff.1 (hf' field)
      show readFields f (.text (some m.name) :: .colon :: (m.value ++ .closeObject :: rest)) = _
      rw [readFields, readField_of_adds hadds]
      simp [hboth, Except.map]
    | cons m' ms =>
      have htokens : Member.row (m :: m' :: ms) ++ .closeObject :: rest = .text (some m.name) ::
          .colon :: (m.value ++ .comma :: (Member.row (m' :: ms) ++ .closeObject :: rest)) := by
        simp [Member.row, Member.tokens]
      rw [htokens, readFields, readField_of_adds hadds]
      dsimp only
      rw [dif_pos (by simp; omega), ih (List.cons_ne_nil _ _) hf']

theorem row_of_readFields {line column : Nat} (h : readFields f ts = .ok ((line, column), rest)) :
    ∃ ms, ms ≠ [] ∧ ts = Member.row ms ++ .closeObject :: rest ∧
      ∀ field, f.values ms field = [numeral (field.pick line column)] := by
  fun_induction readFields f ts with
  | case1 f key after e hread => cases h
  | case2 f key after f' rest' hread =>
    obtain ⟨m, rfl, rfl, hadds⟩ := adds_of_readField hread
    cases hboth : f'.both with
    | error e =>
      rw [hboth] at h
      cases h
    | ok r =>
      rw [hboth] at h
      cases h
      refine ⟨[m], List.cons_ne_nil _ _, rfl, fun field => ?_⟩
      rw [hadds.values_eq, values_nil_iff]
      exact both_eq_ok_iff.1 hboth field
  | case3 f key after f' rest' hread hlength ih =>
    obtain ⟨m, rfl, rfl, hadds⟩ := adds_of_readField hread
    obtain ⟨ms, hne, rfl, hms⟩ := ih h
    obtain ⟨m', ms, rfl⟩ := List.exists_cons_of_ne_nil hne
    refine ⟨m :: m' :: ms, List.cons_ne_nil _ _, by simp [Member.row, Member.tokens], fun field => ?_⟩
    rw [hadds.values_eq, hms]
  | case4 => cases h
  | case5 => cases h
  | case6 => cases h

end

end Fields

theorem of_readPair {line column : Nat} {ts rest : List Token}
    (h : readPair ts = .ok ((line, column), rest)) :
    ts = numeral line ++ .comma :: (numeral column ++ .closeArray :: rest) := by
  unfold readPair at h
  split at h
  · cases h
  · split at h
    · cases h
    · cases h
    · next l after hline =>
      split at h
      · cases h
      · next c after hcolumn =>
        cases h
        rw [of_readCount hline, of_readCount hcolumn]
      · cases h
    · cases h

/-- What is read is a position, be it an object or an array. -/
theorem readCoordinates_eq_ok_iff {line column : Nat} {ts rest : List Token} :
    readCoordinates ts = .ok ((line, column), rest) ↔
      ∃ used, ts = used ++ rest ∧ Coordinates line column used := by
  constructor
  · intro h
    unfold readCoordinates at h
    split at h
    · cases h
    · next after hempty =>
      obtain ⟨ms, -, rfl, hms⟩ := Fields.row_of_readFields h
      obtain ⟨hline, hcolumn⟩ := Fields.values_none_iff.1 hms
      exact ⟨_, by simp, .object hline hcolumn⟩
    · next after =>
      rw [of_readPair h]
      exact ⟨_, by simp, .array⟩
    · cases h
    · cases h
  · rintro ⟨used, rfl, hused⟩
    cases hused with
    | array => rfl
    | @object ms hline hcolumn =>
      have hne : ms ≠ [] := by
        rintro rfl
        cases hline
      have hfields : readFields ⟨none, none⟩ (Member.row ms ++ .closeObject :: rest) =
          .ok ((line, column), rest) :=
        Fields.readFields_row hne (Fields.values_none_iff.2 ⟨hline, hcolumn⟩)
      obtain ⟨m, ms, rfl⟩ := List.exists_cons_of_ne_nil hne
      obtain ⟨after, hrow⟩ := Member.row_cons m ms
      rw [hrow] at hfields ⊢
      rw [List.cons_append, List.append_assoc]
      exact hfields

/-! ## Texts -/

theorem Coordinates.malformed_not_mem {line column : Nat} {ts : List Token}
    (h : Coordinates line column ts) : .malformed ∉ ts := by
  cases h with
  | array => simp [numeral]
  | object _ _ =>
    have hrow (ms : List Member) : .malformed ∉ Member.row ms := by
      fun_induction Member.row ms with
      | case1 => exact List.not_mem_nil
      | case2 m => simp [Member.tokens, m.derives.malformed_not_mem]
      | case3 m m' ms ih => simp [Member.tokens, m.derives.malformed_not_mem, ih]
    simp [hrow]

theorem readPosition_eq {text : String} {line column : Nat} {rest : List Token}
    (h : readCoordinates (tokens text.toList) = .ok ((line, column), rest)) :
    readPosition text = match Position.of line column with
      | .error e => .error (.mismatch (.refused e.message))
      | .ok p => if rest.isEmpty then .ok p else .error .malformed := by
  rw [readPosition, h]
  rfl

theorem readPosition_of_gives {text : String} {line column : Nat} (h : Gives text line column) :
    readPosition text =
      (Position.of line column).mapError fun e => .mismatch (.refused e.message) := by
  obtain ⟨ts, hlexes, hts⟩ := h
  have hread : readCoordinates (tokens text.toList) = .ok ((line, column), []) :=
    readCoordinates_eq_ok_iff.2 ⟨ts, by rw [hlexes.tokens_eq, List.append_nil], hts⟩
  rw [readPosition_eq hread]
  cases Position.of line column <;> rfl

theorem of_position_of {line column : Nat} {p : Position} (h : Position.of line column = .ok p) :
    p.line = line ∧ p.column = column := by
  unfold Position.of at h
  split at h
  · split at h
    · cases h
      exact ⟨rfl, rfl⟩
    · cases h
  · cases h

theorem gives_of_readPosition {text : String} {p : Position} (h : readPosition text = .ok p) :
    Gives text p.line p.column := by
  cases hread : readCoordinates (tokens text.toList) with
  | error e =>
    rw [readPosition, hread] at h
    cases h
  | ok r =>
    obtain ⟨⟨line, column⟩, rest⟩ := r
    obtain ⟨ts, htokens, hts⟩ := readCoordinates_eq_ok_iff.1 hread
    rw [readPosition_eq hread] at h
    split at h
    · cases h
    · next q hq =>
      split at h
      · next hempty =>
        cases h
        obtain ⟨rfl, rfl⟩ := of_position_of hq
        rw [List.isEmpty_iff.1 hempty, List.append_nil] at htokens
        exact ⟨ts, htokens ▸ lexes_tokens (htokens ▸ hts.malformed_not_mem), hts⟩
      · cases h

theorem lexes_member (field : Field) {n : Nat} {rest : List Char} {ts : List Token} (hn : n < 2 ^ 64)
    (hend : EndsDigits rest) (hrest : Lexes rest ts) :
    Lexes ('"' :: (field.name.toList ++ '"' :: ':' :: (Nat.toDigits 10 n ++ rest)))
      (.text (some field.name.toList) :: .colon :: (numeral n ++ ts)) := by
  have hname : ∀ c ∈ field.name.toList, 0x20 ≤ c.toNat ∧ c ≠ '"' ∧ c ≠ '\\' := by
    cases field <;> simp [Field.name]
  exact .plain hname (.mark .colon (.natural hn hend hrest))

theorem toList_writePosition (p : Position) : (writePosition p).toList =
    '\x7b' :: '"' :: (Field.line.name.toList ++ '"' :: ':' :: (Nat.toDigits 10 p.line ++
      ',' :: '"' :: (Field.column.name.toList ++ '"' :: ':' :: (Nat.toDigits 10 p.column ++
        ['\x7d'])))) := by
  simp [writePosition, Field.name, Nat.toString_eq_repr, Nat.toList_repr]

theorem gives_writePosition {p : Position} (hline : p.line < 2 ^ 64) (hcolumn : p.column < 2 ^ 64) :
    Gives (writePosition p) p.line p.column := by
  let member (field : Field) (n : Nat) : Member :=
    ⟨field.name.toList, numeral n, .scalar (.number _)⟩
  have hmembers :
      Member.named "line" [member .line p.line, member .column p.column] = [numeral p.line] ∧
      Member.named "column" [member .line p.line, member .column p.column] = [numeral p.column] :=
    ⟨rfl, rfl⟩
  have hend {c : Char} {rest : List Char} (hc : isDigit c = false) : EndsDigits (c :: rest) := by
    rintro _ ⟨⟩
    exact hc
  have hclose : Lexes ['\x7d'] [.closeObject] := .mark .closeObject .nil
  refine ⟨_, ?_, .object hmembers.1 hmembers.2⟩
  rw [toList_writePosition]
  exact .mark .openObject (lexes_member .line hline (hend rfl)
    (.mark .comma (lexes_member .column hcolumn (hend rfl) hclose)))

/-- **What is read from a text** is decided by the line and the column that it gives: the position there,
or why there is none. A position is read from no other text, and the text of a position of 64 bits gives
the position back. -/
theorem readPosition_decides :
    (∀ p : Position, p.line < 2 ^ 64 → p.column < 2 ^ 64 →
      readPosition (writePosition p) = .ok p) ∧
    (∀ (text : String) (line column : Nat), Gives text line column → readPosition text =
      (Position.of line column).mapError fun e => .mismatch (.refused e.message)) ∧
    ∀ (text : String) (p : Position), readPosition text = .ok p →
      Gives text p.line p.column ∧ 0 < p.line ∧ 0 < p.column := by
  refine ⟨fun p hline hcolumn => ?_, fun text line column => readPosition_of_gives,
    fun text p h => ⟨gives_of_readPosition h, p.line_pos, p.column_pos⟩⟩
  rw [readPosition_of_gives (gives_writePosition hline hcolumn), Position.of_line_column]
  rfl

namespace Sample

/-- A position among other members: one with a nested field of the same name and half of a pair of
surrogates, and one that is named twice. -/
def crowded : String :=
  "\x7b \"note\": [\x7b\"line\": null\x7d, -1.5e3, \"\\ud83d\"],\n" ++
    "\"column\": 7, \"l\\u0069ne\": 0, \"note\": [] \x7d"

def members : List Member := [
  { name := "note".toList
    value := [.openArray, .openObject, .text (some "line".toList), .colon, .null, .closeObject, .comma,
      .number (.decimal true ⟨15, 2⟩), .comma, .text none, .closeArray]
    derives := by decide },
  { name := "column".toList, value := numeral 7, derives := by decide },
  { name := "line".toList, value := numeral 0, derives := by decide },
  { name := "note".toList, value := [.openArray, .closeArray], derives := by decide }]

end Sample

/-- The largest number of 64 bits; a position without a line among other members; and an array. -/
theorem readPosition_decides_sample :
    let p : Position := .mk 18446744073709551615 1
    (p.line < 2 ^ 64 ∧ p.column < 2 ^ 64) ∧ readPosition (writePosition p) = .ok p ∧
      Gives Sample.crowded 0 7 ∧ readPosition Sample.crowded =
        .error (.mismatch (.refused "line number must be positive, got 0")) ∧
      readPosition "[3, 4]" = .ok (.mk 3 4) ∧ Gives "[3, 4]" 3 4 := by
  intro p
  obtain ⟨hwrite, hgives, hread⟩ := readPosition_decides
  have hbounds : p.line < 2 ^ 64 ∧ p.column < 2 ^ 64 := by decide
  have hmembers : Member.named "line" Sample.members = [numeral 0] ∧
      Member.named "column" Sample.members = [numeral 7] := ⟨rfl, rfl⟩
  have hcrowded : Gives Sample.crowded 0 7 :=
    ⟨_, by decide +kernel, .object hmembers.1 hmembers.2⟩
  have harray : readPosition "[3, 4]" = .ok (.mk 3 4) := by decide +kernel
  exact ⟨hbounds, hwrite p hbounds.1 hbounds.2, hcrowded, hgives _ _ _ hcrowded, harray,
    (hread _ _ harray).1⟩

end LongSuffix.Json
