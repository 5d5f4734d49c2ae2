import LongSuffix.Store
import Mathlib.Logic.Basic

/-!
# Stores as cells

A store keeps a text in each of its cells, and a path names a cell: two spellings of one path name
the same one. `Store.Lawful` says what loading and writing do to the cells. Which loads and writes
fail is left open, and may change from one use to the next. In an independent store it does not
change with what is done to other cells (`Store.Independent`), and where a text was loaded and
another one written the latter can be loaded too (`Store.Rereads`). Texts in memory are such a store,
with the components of a path for its cell.
-/

namespace LongSuffix

variable {σ κ : Type}

/-- Loading gives the text of a cell and changes none; writing fills the cell of the path and no
other, or fails and changes none. -/
structure Store.Lawful (store : Store (StateM σ)) (cell : Path → κ)
    (text? : σ → κ → Option String) : Prop where
  load_keeps : ∀ path s, text? ((store.load path).run s).2 = text? s
  load_ok : ∀ path s text, ((store.load path).run s).1 = .ok text → text? s (cell path) = some text
  persist_here : ∀ path text s, ((store.persist path text).run s).1 = .ok () →
    text? ((store.persist path text).run s).2 (cell path) = some text
  persist_there : ∀ path text s, ((store.persist path text).run s).1 = .ok () →
    ∀ k ≠ cell path, text? ((store.persist path text).run s).2 k = text? s k
  persist_error : ∀ path text s fault, ((store.persist path text).run s).1 = .error fault →
    text? ((store.persist path text).run s).2 = text? s

/-- What the store has to say about a path as it is now: what a load gives, and what is said to the
writing of a text. -/
def Store.answers (store : Store (StateM σ)) (path : Path) (s : σ) :
    Except Fault String × (String → Except Fault Unit) :=
  (((store.load path).run s).1, fun text => ((store.persist path text).run s).1)

/-- Loading changes no answer, and writing none about another cell. Which cells cannot be loaded or
written is still left open. -/
structure Store.Independent (store : Store (StateM σ)) (cell : Path → κ)
    (text? : σ → κ → Option String) : Prop extends store.Lawful cell text? where
  load_answers : ∀ path s q, store.answers q ((store.load path).run s).2 = store.answers q s
  persist_answers : ∀ path text s q, cell q ≠ cell path →
    store.answers q ((store.persist path text).run s).2 = store.answers q s

/-- A path that can be loaded can be loaded after a write to it, and has the text that was
written. -/
structure Store.Rereads (store : Store (StateM σ)) (cell : Path → κ)
    (text? : σ → κ → Option String) : Prop extends store.Independent cell text? where
  persist_load : ∀ path text s old, ((store.load path).run s).1 = .ok old →
    ((store.persist path text).run s).1 = .ok () →
      ((store.load path).run ((store.persist path text).run s).2).1 = .ok text

/-! ## Recording -/

/-- A text that a store is asked to write under a path. -/
structure Write where
  path : Path
  text : String
  deriving DecidableEq

/-- The store with a list of the writes that it was asked for, whether they failed or not. -/
def Store.recording (store : Store (StateM σ)) : Store (StateM (σ × List Write)) where
  load path := fun (s, writes) =>
    let (result, s') := (store.load path).run s
    (result, s', writes)
  persist path text := fun (s, writes) =>
    let (result, s') := (store.persist path text).run s
    (result, s', writes ++ [⟨path, text⟩])

section

variable (store : Store (StateM σ)) (path : Path) (text : String) (s : σ) (writes : List Write)

@[simp] theorem Store.run_load_recording :
    (store.recording.load path).run (s, writes) =
      (((store.load path).run s).1, ((store.load path).run s).2, writes) := rfl

@[simp] theorem Store.run_persist_recording :
    (store.recording.persist path text).run (s, writes) =
      (((store.persist path text).run s).1, ((store.persist path text).run s).2,
        writes ++ [⟨path, text⟩]) := rfl

end

/-! ## Stores as values -/

/-- A store as a value is lawful if what is read and what is written is: a write that fails gives no
next value. -/
theorem Medium.lawful_store {medium : Medium σ} {cell : Path → κ} {text? : σ → κ → Option String}
    (hread : ∀ s path text, medium.read s path = .ok text → text? s (cell path) = some text)
    (hwrite : ∀ s path text s', medium.write s path text = .ok s' →
      text? s' (cell path) = some text ∧ ∀ k ≠ cell path, text? s' k = text? s k) :
    medium.store.Lawful cell text? where
  load_keeps _ _ := rfl
  load_ok path s text h := hread s path text h
  persist_here path text s h := by
    simp only [store, StateT.run] at h ⊢
    split at h
    · next s' hs' => exact (hwrite s path text s' hs').1
    · cases h
  persist_there path text s h k hk := by
    simp only [store, StateT.run] at h ⊢
    split at h
    · next s' hs' => exact (hwrite s path text s' hs').2 k hk
    · cases h
  persist_error path text s fault h := by
    simp only [store, StateT.run] at h ⊢
    split at h
    · cases h
    · rfl

theorem Medium.persist_store_fst (medium : Medium σ) (path : Path) (text : String) (s : σ) :
    ((medium.store.persist path text).run s).1 = (medium.write s path text).map fun _ => () := by
  simp only [store, StateT.run]
  cases medium.write s path text <;> rfl

/-- A store as a value is independent if a write changes no read from another cell, and does not
decide whether a write there fails. -/
theorem Medium.independent_store {medium : Medium σ} {cell : Path → κ}
    {text? : σ → κ → Option String} (hs : medium.store.Lawful cell text?)
    (hwrite : ∀ s path text s', medium.write s path text = .ok s' → ∀ q, cell q ≠ cell path →
      medium.read s' q = medium.read s q ∧
        ∀ other, (medium.write s' q other).map (fun _ => ()) =
          (medium.write s q other).map fun _ => ()) :
    medium.store.Independent cell text? where
  toLawful := hs
  load_answers _ _ _ := rfl
  persist_answers path text s q hq := by
    have hstate : ((medium.store.persist path text).run s).2 = s ∨
        medium.write s path text = .ok ((medium.store.persist path text).run s).2 := by
      simp only [store, StateT.run]
      cases medium.write s path text with
      | ok s' => exact .inr rfl
      | error fault => exact .inl rfl
    obtain hsame | hok := hstate
    · rw [hsame]
    · obtain ⟨hread, hother⟩ := hwrite s path text _ hok q hq
      refine Prod.ext hread (funext fun other => ?_)
      simp only [Store.answers, persist_store_fst]
      exact hother other

theorem Medium.rereads_store {medium : Medium σ} {cell : Path → κ} {text? : σ → κ → Option String}
    (hs : medium.store.Independent cell text?)
    (hread : ∀ s path text s' old, medium.read s path = .ok old →
      medium.write s path text = .ok s' → medium.read s' path = .ok text) :
    medium.store.Rereads cell text? where
  toIndependent := hs
  persist_load path text s old hload hpersist := by
    simp only [store, StateT.run] at hload hpersist ⊢
    split at hpersist
    · next s' hs' => exact hread s path text s' old hload hs'
    · cases hpersist

/-! ## Texts in memory -/

namespace Memory

/-- The text under the components of a path. -/
def text? (m : Memory) (k : List Component) : Option String :=
  (m.files.find? (k == ·.1.components)).map (·.2)

theorem text?_place (path : Path) (text : String) (files : List (Path × String))
    (k : List Component) :
    ((place path text files).find? (k == ·.1.components)).map (·.2) =
      if k = path.components then some text
      else (files.find? (k == ·.1.components)).map (·.2) := by
  induction files with
  | nil =>
    by_cases hk : k = path.components
    · simp [place, hk]
    · simp [place, hk]
  | cons entry files ih =>
    obtain ⟨q, old⟩ := entry
    rw [place]
    by_cases hsame : path.components = q.components
    · by_cases hk : k = path.components
      · simp [Path.sameAs, hsame, hk]
      · have hq : k ≠ q.components := hsame ▸ hk
        simp [Path.sameAs, hsame, hq]
    · rw [if_neg (by simpa [Path.sameAs] using hsame)]
      split
      · by_cases hk : k = path.components
        · simp [hk]
        · simp [hk, List.find?_cons]
      · by_cases hq : k = q.components
        · simp [hq, Ne.symm hsame]
        · simp only [List.find?_cons, beq_false_of_ne hq, ih]

theorem lawful_store : medium.store.Lawful Path.components text? := by
  refine Medium.lawful_store (fun m path text h => ?_) fun m path text m' h => ?_
  · simp only [medium] at h
    split at h
    · cases h
    · split at h
      · next hget => cases h; exact hget
      · cases h
  · simp only [medium] at h
    split at h
    · cases h
    · cases h
      refine ⟨?_, fun k hk => ?_⟩
      · rw [text?, text?_place, if_pos rfl]
      · rw [text?, text?_place, if_neg hk, text?]

theorem independent_store : medium.store.Independent Path.components text? := by
  refine Medium.independent_store lawful_store fun m path text m' h q hq => ?_
  simp only [medium] at h
  split at h
  · cases h
  · cases h
    have hget : ((place path text m.files).find? (q.sameAs ·.1)).map (·.2) = m.get? q :=
      (text?_place path text m.files q.components).trans (if_neg hq)
    refine ⟨?_, fun other => ?_⟩
    · simp only [medium, get?] at hget ⊢
      rw [hget]
    · simp only [medium]
      split <;> rfl

theorem rereads_store : medium.store.Rereads Path.components text? := by
  refine Medium.rereads_store independent_store fun m path text m' old hread hwrite => ?_
  simp only [medium] at hread hwrite ⊢
  split at hread
  · cases hread
  · next hreadable =>
    split at hwrite
    · cases hwrite
    · cases hwrite
      have hget : ((place path text m.files).find? (path.sameAs ·.1)).map (·.2) = some text :=
        (text?_place path text m.files path.components).trans (if_pos rfl)
      simp only [get?]
      rw [if_neg hreadable, hget]

end Memory

end LongSuffix
