import LongSuffix.Json.Position

/-!
# Values of JSON

The grammar of values over tokens (`Derives`). A value that is not looked at is skipped from left to
right, with what is open around the place that was reached as the only memory. That takes up exactly
one value of the grammar (`skip_eq_some_iff`): a derivation is followed forwards, and the steps of a
run that came to its end are followed backwards, with what is still to be closed (`Demands`).
-/

namespace LongSuffix.Json

namespace Frame

def opening : Frame → Token
  | array => .openArray
  | object => .openObject

def closing : Frame → Token
  | array => .closeArray
  | object => .closeObject

/-- What may come after the opening. -/
def first : Frame → Expect
  | array => .item
  | object => .field

/-- What has to come after a comma. -/
def next : Frame → Expect
  | array => .value
  | object => .key

theorem first_ne_more (f : Frame) : f.first ≠ .more := by
  cases f <;> decide

theorem next_ne_more (f : Frame) : f.next ≠ .more := by
  cases f <;> decide

end Frame

/-- A value that is one token. -/
inductive Scalar : Token → Prop where
  | null : Scalar .null
  | boolean (b : Bool) : Scalar (.boolean b)
  | number (x : Number) : Scalar (.number x)
  | text (s : Option (List Char)) : Scalar (.text s)

/-- The parts that the grammar tells apart. The elements of an object are its fields. -/
inductive Part where
  | value
  | element (f : Frame)
  | elements (f : Frame)

inductive Derives : Part → List Token → Prop where
  | scalar {t : Token} (h : Scalar t) : Derives .value [t]
  | empty (f : Frame) : Derives .value [f.opening, f.closing]
  | compound {f : Frame} {es : List Token} (h : Derives (.elements f) es) :
    Derives .value (f.opening :: (es ++ [f.closing]))
  | item {v : List Token} (h : Derives .value v) : Derives (.element .array) v
  | field {s : Option (List Char)} {v : List Token} (h : Derives .value v) :
    Derives (.element .object) (.text s :: .colon :: v)
  | one {f : Frame} {e : List Token} (h : Derives (.element f) e) : Derives (.elements f) e
  | more {f : Frame} {e es : List Token} (h : Derives (.element f) e)
    (hs : Derives (.elements f) es) : Derives (.elements f) (e ++ .comma :: es)

/-! ## Steps of skipping -/

/-- What one token does to what is open and to what may come next. -/
inductive Step : List Frame → Expect → Token → List Frame → Expect → Prop where
  | scalar {frames : List Frame} {e : Expect} {t : Token} (he : e = .value ∨ e = .item)
    (h : Scalar t) : Step frames e t frames .more
  | opening {frames : List Frame} {e : Expect} (f : Frame) (he : e = .value ∨ e = .item) :
    Step frames e f.opening (f :: frames) f.first
  | closing {outer : List Frame} {e : Expect} {f : Frame} (he : e = f.first ∨ e = .more) :
    Step (f :: outer) e f.closing outer .more
  | comma {outer : List Frame} {f : Frame} : Step (f :: outer) .more .comma (f :: outer) f.next
  | key {frames : List Frame} {e : Expect} {s : Option (List Char)} (he : e = .field ∨ e = .key) :
    Step frames e (.text s) frames .colon
  | colon {frames : List Frame} : Step frames .colon .colon frames .value

/-- Goes on skipping, unless nothing is open and a value has ended. -/
def resume (frames : List Frame) (expect : Expect) (ts : List Token) : Option (List Token) :=
  if frames = [] ∧ expect = .more then some ts else skip frames expect ts

section

variable {frames frames' : List Frame} {e e' : Expect} {t : Token} {ts rest : List Token}

theorem resume_of_ne (h : e ≠ .more) : resume frames e ts = skip frames e ts :=
  if_neg fun h' => h h'.2

theorem resume_more : resume frames .more ts =
    if frames.isEmpty then some ts else skip frames .more ts := by
  cases frames <;> rfl

theorem of_resume (h : resume frames e ts = some rest) :
    (frames = [] ∧ e = .more ∧ ts = rest) ∨ skip frames e ts = some rest := by
  unfold resume at h
  split at h
  · next hend => exact .inl ⟨hend.1, hend.2, Option.some.inj h⟩
  · exact .inr h

theorem skip_of_step (h : Step frames e t frames' e') :
    skip frames e (t :: ts) = resume frames' e' ts := by
  cases h with
  | scalar he h =>
    rw [resume_more]
    rcases he with rfl | rfl <;> cases h <;> rfl
  | opening f he =>
    rw [resume_of_ne f.first_ne_more]
    rcases he with rfl | rfl <;> cases f <;> rfl
  | @closing outer e f he =>
    rw [resume_more]
    rcases he with rfl | rfl <;> cases f <;> rfl
  | @comma outer f =>
    rw [resume_of_ne f.next_ne_more]
    cases f <;> rfl
  | key he =>
    rw [resume_of_ne (by decide)]
    rcases he with rfl | rfl <;> rfl
  | colon => rw [resume_of_ne (by decide)]; rfl

/-- Where skipping comes to an end, it made a step. -/
theorem step_of_skip (h : skip frames e (t :: ts) = some rest) :
    ∃ frames' e', Step frames e t frames' e' ∧ resume frames' e' ts = some rest := by
  suffices hstep : ∃ frames' e', Step frames e t frames' e' by
    obtain ⟨frames', e', hstep⟩ := hstep
    exact ⟨frames', e', hstep, skip_of_step hstep ▸ h⟩
  unfold skip at h
  split at h
  · exact ⟨_, _, .closing (f := .array) (.inl rfl)⟩
  · exact ⟨_, _, .closing (f := .object) (.inl rfl)⟩
  · exact ⟨_, _, .key (.inl rfl)⟩
  · exact ⟨_, _, .key (.inr rfl)⟩
  · exact ⟨_, _, .colon⟩
  · exact ⟨_, _, .comma⟩
  · exact ⟨_, _, .comma⟩
  · exact ⟨_, _, .closing (f := .array) (.inr rfl)⟩
  · exact ⟨_, _, .closing (f := .object) (.inr rfl)⟩
  · exact ⟨_, _, .opening .array (.inl rfl)⟩
  · exact ⟨_, _, .opening .array (.inr rfl)⟩
  · exact ⟨_, _, .opening .object (.inl rfl)⟩
  · exact ⟨_, _, .opening .object (.inr rfl)⟩
  · exact ⟨_, _, .scalar (.inl rfl) .null⟩
  · exact ⟨_, _, .scalar (.inr rfl) .null⟩
  · exact ⟨_, _, .scalar (.inl rfl) (.boolean _)⟩
  · exact ⟨_, _, .scalar (.inr rfl) (.boolean _)⟩
  · exact ⟨_, _, .scalar (.inl rfl) (.number _)⟩
  · exact ⟨_, _, .scalar (.inr rfl) (.number _)⟩
  · exact ⟨_, _, .scalar (.inl rfl) (.text _)⟩
  · exact ⟨_, _, .scalar (.inr rfl) (.text _)⟩
  · cases h

end

/-! ## A value is skipped -/

/-- What is derived starts with a token that closes nothing. -/
theorem Derives.head {p : Part} {ts : List Token} (h : Derives p ts) :
    ∃ t ts', ts = t :: ts' ∧ ∀ f : Frame, t ≠ f.closing := by
  have hopening (f g : Frame) : f.opening ≠ g.closing := by
    cases f <;> cases g <;> decide
  induction h with
  | scalar h => exact ⟨_, _, rfl, fun f => by cases h <;> cases f <;> exact Token.noConfusion⟩
  | empty f => exact ⟨_, _, rfl, hopening f⟩
  | @compound f => exact ⟨_, _, rfl, hopening f⟩
  | item _ ih => exact ih
  | field => exact ⟨_, _, rfl, fun f => by cases f <;> exact Token.noConfusion⟩
  | one _ ih => exact ih
  | more _ _ ih _ =>
    obtain ⟨t, ts', rfl, ht⟩ := ih
    exact ⟨t, _, rfl, ht⟩

/-- At the start of an array or object, what has to come after a comma may come as well. -/
theorem skip_first {f : Frame} {frames : List Frame} {t : Token} {ts : List Token}
    (h : t ≠ f.closing) : skip (f :: frames) f.first (t :: ts) = skip (f :: frames) f.next (t :: ts) := by
  cases f with
  | array =>
    cases t with
    | closeArray => exact absurd rfl h
    | _ => rfl
  | object =>
    cases t with
    | closeObject => exact absurd rfl h
    | _ => rfl

/-- What skipping does with a part of a value. -/
def Skipped : Part → List Token → Prop
  | .value, ts => ∀ frames rest, skip frames .value (ts ++ rest) = resume frames .more rest
  | .element f, ts => ∀ outer rest,
    skip (f :: outer) f.next (ts ++ rest) = resume (f :: outer) .more rest
  | .elements f, ts => ∀ outer rest,
    skip (f :: outer) f.next (ts ++ f.closing :: rest) = resume outer .more rest

theorem skipped_of_derives {p : Part} {ts : List Token} (h : Derives p ts) : Skipped p ts := by
  induction h with
  | scalar h => exact fun frames rest => skip_of_step (.scalar (.inl rfl) h)
  | empty f =>
    intro frames rest
    rw [List.cons_append, List.singleton_append, skip_of_step (.opening f (.inl rfl)),
      resume_of_ne f.first_ne_more, skip_of_step (.closing (.inl rfl))]
  | @compound f es h ih =>
    intro frames rest
    obtain ⟨t, ts', hes, ht⟩ := h.head
    rw [List.cons_append, List.append_assoc, List.singleton_append,
      skip_of_step (.opening f (.inl rfl)), resume_of_ne f.first_ne_more, ← ih frames rest, hes]
    exact skip_first (ht f)
  | item _ ih => exact fun outer rest => ih _ rest
  | field _ ih =>
    intro outer rest
    rw [List.cons_append, List.cons_append, ← ih]
    rfl
  | @one f e _ ih =>
    intro outer rest
    rw [ih]
    exact skip_of_step (.closing (.inr rfl))
  | @more f e es _ _ ih ihs =>
    intro outer rest
    rw [List.append_assoc, ih, List.cons_append, ← ihs outer rest]
    exact (skip_of_step .comma).trans (resume_of_ne f.next_ne_more)

/-! ## What is skipped is a value -/

/-- What has to follow a value, so that all that is open is closed. -/
def Completes : List Frame → List Token → Prop
  | [], ts => ts = []
  | f :: outer, ts => ∃ inner rest, ts = inner ++ f.closing :: rest ∧
    (inner = [] ∨ ∃ es, inner = .comma :: es ∧ Derives (.elements f) es) ∧ Completes outer rest

/-- A part, and what has to follow it. -/
def Leads (part : List Token → Prop) (frames : List Frame) (ts : List Token) : Prop :=
  ∃ inner rest, ts = inner ++ rest ∧ part inner ∧ Completes frames rest

/-- An array or object that ends where it starts. -/
def Ends (f : Frame) (frames : List Frame) (ts : List Token) : Prop :=
  ∃ outer rest, frames = f :: outer ∧ ts = f.closing :: rest ∧ Completes outer rest

/-- What the tokens have to be that complete a value. -/
def Demands (frames : List Frame) : Expect → List Token → Prop
  | .value => Leads (Derives .value) frames
  | .item => fun ts => Leads (Derives .value) frames ts ∨ Ends .array frames ts
  | .field => fun ts => Leads (Derives (.element .object)) frames ts ∨ Ends .object frames ts
  | .key => Leads (Derives (.element .object)) frames
  | .colon => Leads (fun ts => ∃ v, ts = .colon :: v ∧ Derives .value v) frames
  | .more => Completes frames

theorem demands_next {f : Frame} {frames : List Frame} {ts : List Token}
    (h : Demands frames f.next ts) : Leads (Derives (.element f)) frames ts := by
  cases f with
  | array =>
    obtain ⟨v, rest, hts, hv, hrest⟩ := h
    exact ⟨v, rest, hts, .item hv, hrest⟩
  | object => exact h

theorem demands_first {f : Frame} {frames : List Frame} {ts : List Token}
    (h : Demands frames f.first ts) :
    Leads (Derives (.element f)) frames ts ∨ Ends f frames ts := by
  cases f with
  | array => exact h.imp_left (demands_next (f := .array))
  | object => exact h

/-- The elements of an array or object are completed with its end. -/
theorem elements_of_leads {f : Frame} {outer : List Frame} {ts : List Token}
    (h : Leads (Derives (.element f)) (f :: outer) ts) :
    ∃ es rest, ts = es ++ f.closing :: rest ∧ Derives (.elements f) es ∧ Completes outer rest := by
  obtain ⟨e, _, rfl, he, inner, rest, rfl, rfl | ⟨es, rfl, hes⟩, hrest⟩ := h
  · exact ⟨e, rest, rfl, .one he, hrest⟩
  · exact ⟨e ++ .comma :: es, rest, by simp, .more he hes, hrest⟩

/-- A step backwards: what its token and the tokens after it complete. -/
theorem demands_of_step {frames frames' : List Frame} {e e' : Expect} {t : Token} {ts : List Token}
    (h : Step frames e t frames' e') (hts : Demands frames' e' ts) : Demands frames e (t :: ts) := by
  -- a value that is expected may also be the first one of an array
  have hvalue {frames : List Frame} {e : Expect} {ts : List Token} (he : e = .value ∨ e = .item)
      (h : Leads (Derives .value) frames ts) : Demands frames e ts := by
    rcases he with rfl | rfl
    · exact h
    · exact .inl h
  cases h with
  | scalar he h => exact hvalue he ⟨[t], ts, rfl, .scalar h, hts⟩
  | opening f he =>
    refine hvalue he ?_
    rcases demands_first hts with hleads | ⟨outer, rest, heq, rfl, hrest⟩
    · obtain ⟨es, rest, rfl, hes, hrest⟩ := elements_of_leads hleads
      exact ⟨_, rest, by simp, .compound hes, hrest⟩
    · cases heq
      exact ⟨_, rest, by simp, .empty f, hrest⟩
  | @closing _ _ f he =>
    have hends : Ends f (f :: frames') (f.closing :: ts) := ⟨frames', ts, rfl, rfl, hts⟩
    rcases he with rfl | rfl
    · cases f <;> exact .inr hends
    · exact ⟨[], ts, rfl, .inl rfl, hts⟩
  | @comma outer f =>
    obtain ⟨es, rest, rfl, hes, hrest⟩ := elements_of_leads (demands_next hts)
    exact ⟨.comma :: es, rest, rfl, .inr ⟨es, rfl, hes⟩, hrest⟩
  | @key _ e s he =>
    obtain ⟨_, rest, rfl, ⟨v, rfl, hv⟩, hrest⟩ := hts
    have hfield : Leads (Derives (.element .object)) frames (.text s :: (.colon :: v ++ rest)) :=
      ⟨.text s :: .colon :: v, rest, rfl, .field hv, hrest⟩
    rcases he with rfl | rfl
    · exact .inl hfield
    · exact hfield
  | colon =>
    obtain ⟨v, rest, rfl, hv, hrest⟩ := hts
    exact ⟨.colon :: v, rest, rfl, ⟨v, rfl, hv⟩, hrest⟩

/-- What is taken up completes what was expected. -/
theorem demands_of_resume {frames : List Frame} {e : Expect} {ts rest : List Token}
    (h : resume frames e ts = some rest) : ∃ used, ts = used ++ rest ∧ Demands frames e used := by
  induction ts generalizing frames e with
  | nil =>
    rcases of_resume h with ⟨rfl, rfl, rfl⟩ | h
    · exact ⟨[], rfl, rfl⟩
    · cases h
  | cons t ts ih =>
    rcases of_resume h with ⟨rfl, rfl, rfl⟩ | h
    · exact ⟨[], rfl, rfl⟩
    · obtain ⟨frames', e', hstep, h⟩ := step_of_skip h
      obtain ⟨used, rfl, hused⟩ := ih h
      exact ⟨t :: used, rfl, demands_of_step hstep hused⟩

/-- Skipping takes up one value of the grammar, and all tokens of it. -/
theorem skip_eq_some_iff {ts rest : List Token} :
    skip [] .value ts = some rest ↔ ∃ v, ts = v ++ rest ∧ Derives .value v := by
  constructor
  · intro h
    obtain ⟨used, rfl, v, _, rfl, hv, rfl⟩ :=
      demands_of_resume ((resume_of_ne (by decide)).trans h)
    exact ⟨v, by simp, hv⟩
  · rintro ⟨v, rfl, hv⟩
    exact skipped_of_derives hv [] rest

theorem derives_value_iff {v : List Token} : Derives .value v ↔ skip [] .value v = some [] := by
  simp [skip_eq_some_iff]

instance (v : List Token) : Decidable (Derives .value v) := decidable_of_iff' _ derives_value_iff

theorem Derives.malformed_not_mem {p : Part} {ts : List Token} (h : Derives p ts) :
    .malformed ∉ ts := by
  induction h with
  | scalar h => cases h <;> simp
  | empty f => cases f <;> simp [Frame.opening, Frame.closing]
  | @compound f es _ ih => cases f <;> simp [Frame.opening, Frame.closing, ih]
  | item _ ih => exact ih
  | field _ ih => simp [ih]
  | one _ ih => exact ih
  | more _ _ ih ihs => simp [ih, ihs]

end LongSuffix.Json
