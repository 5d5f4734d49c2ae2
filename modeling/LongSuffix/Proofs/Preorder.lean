import LongSuffix.Tree.Cursor
import Mathlib.Data.List.Basic

/-!
# The walk of a cursor

A node of a tree has an address: the numbers of the children on the way down to it. In pre-order the
addresses of all nodes stand in lexicographic order. A cursor that stands at an address moves to that
of the first child, of the next sibling or of the parent, exactly if there is a node.

The loop that walks with a cursor is followed call by call. It ends after two calls for each node, one
more for each node with children, and a last one; and by then it has noted the nodes in pre-order
(`Tree.walk_in_preorder`).
-/

namespace LongSuffix

/-! ## Addresses -/

namespace Tree

/-- The node that is reached by going down to the children with the given numbers. -/
def at? (t : Tree) : List Nat → Option Tree
  | [] => some t
  | i :: path => t.children[i]?.bind (·.at? path)

mutual

/-- The addresses of the nodes of a tree, that of a node before those below it. -/
def addresses : Tree → List (List Nat)
  | node _ _ _ _ children => [] :: addressesFrom 0 children

/-- The addresses at and below siblings, of which the first one has the given number. -/
def addressesFrom (i : Nat) : List Tree → List (List Nat)
  | [] => []
  | t :: rest => t.addresses.map (i :: ·) ++ addressesFrom (i + 1) rest

end

theorem at?_append {t : Tree} {path path' : List Nat} :
    t.at? (path ++ path') = (t.at? path).bind (·.at? path') := by
  induction path generalizing t with
  | nil => rfl
  | cons i path ih =>
    simp only [List.cons_append, at?, Option.bind_assoc]
    congr 1
    funext child
    exact ih

theorem at?_concat {t n : Tree} {path : List Nat} (h : t.at? path = some n) (i : Nat) :
    t.at? (path ++ [i]) = n.children[i]? := by
  rw [at?_append, h, Option.bind_some, at?]
  cases n.children[i]? <;> rfl

theorem mem_addressesFrom {i : Nat} {ts : List Tree} {a : List Nat} :
    a ∈ addressesFrom i ts ↔
      ∃ j t path, ts[j]? = some t ∧ path ∈ t.addresses ∧ a = (i + j) :: path := by
  induction ts generalizing i with
  | nil => simp [addressesFrom]
  | cons t ts ih =>
    rw [addressesFrom, List.mem_append, ih, List.mem_map]
    constructor
    · rintro (⟨path, hpath, rfl⟩ | ⟨j, u, path, hu, hpath, rfl⟩)
      · exact ⟨0, t, path, rfl, hpath, rfl⟩
      · exact ⟨j + 1, u, path, hu, hpath, by rw [Nat.add_right_comm, Nat.add_assoc]⟩
    · rintro ⟨_ | j, u, path, hu, hpath, rfl⟩
      · cases hu
        exact .inl ⟨path, hpath, rfl⟩
      · exact .inr ⟨j, u, path, hu, hpath, by rw [Nat.add_right_comm, Nat.add_assoc]⟩

/-- There is a node at the addresses of a tree and nowhere else. -/
theorem mem_addresses {t : Tree} {a : List Nat} : a ∈ t.addresses ↔ (t.at? a).isSome = true := by
  induction t using inductionOnChildren generalizing a with
  | node kind start stop flawed nodes ih =>
    rw [addresses, List.mem_cons, mem_addressesFrom]
    cases a with
    | nil => simp [at?]
    | cons i path =>
      rw [at?, children, Option.isSome_bind, Option.any_eq_true]
      constructor
      · rintro (h | ⟨j, c, path, hc, hpath, h⟩)
        · cases h
        · rw [Nat.zero_add] at h
          cases h
          exact ⟨c, hc, (ih c (List.mem_of_getElem? hc)).1 hpath⟩
      · rintro ⟨c, hc, hpath⟩
        refine .inr ⟨i, c, path, hc, (ih c (List.mem_of_getElem? hc)).2 hpath, ?_⟩
        rw [Nat.zero_add]

theorem addressesFrom_increasing {ts : List Tree} (h : ∀ t ∈ ts, t.addresses.Pairwise (· < ·))
    (i : Nat) : (addressesFrom i ts).Pairwise (· < ·) := by
  induction ts generalizing i with
  | nil => exact .nil
  | cons t ts ih =>
    obtain ⟨ht, hts⟩ := List.forall_mem_cons.1 h
    rw [addressesFrom, List.pairwise_append]
    refine ⟨List.pairwise_map.2 (ht.imp fun hlt => List.cons_lt_cons_iff.2 (.inr ⟨rfl, hlt⟩)),
      ih hts (i + 1), ?_⟩
    intro a ha b hb
    obtain ⟨path, -, rfl⟩ := List.mem_map.1 ha
    obtain ⟨j, u, path', -, -, rfl⟩ := mem_addressesFrom.1 hb
    exact List.cons_lt_cons_iff.2 (.inl (by omega))

/-- A node stands before those below it, and these before those of its next sibling. -/
theorem addresses_increasing (t : Tree) : t.addresses.Pairwise (· < ·) := by
  induction t using inductionOnChildren with
  | node kind start stop flawed nodes ih =>
    rw [addresses, List.pairwise_cons]
    refine ⟨fun a ha => ?_, addressesFrom_increasing ih 0⟩
    obtain ⟨j, u, path, -, -, rfl⟩ := mem_addressesFrom.1 ha
    exact List.nil_lt_cons _ _

theorem map_at?_addressesFrom {t : Tree} {i : Nat} {ts : List Tree} (h : t.children.drop i = ts)
    (hts : ∀ c ∈ ts, c.addresses.map c.at? = c.preorder.map some) :
    (addressesFrom i ts).map t.at? = (preorderAll ts).map some := by
  induction ts generalizing i with
  | nil => rfl
  | cons c ts ih =>
    obtain ⟨hc, hts⟩ := List.forall_mem_cons.1 hts
    have hchild : t.children[i]? = some c := by rw [← List.head?_drop, h]; rfl
    have hrest : t.children.drop (i + 1) = ts := by rw [← List.tail_drop, h]; rfl
    have hbelow : t.at? ∘ (i :: ·) = c.at? := by
      funext path
      rw [Function.comp_apply, at?, hchild, Option.bind_some]
    rw [addressesFrom, preorderAll, List.map_append, List.map_append, List.map_map, hbelow, hc,
      ih hrest hts]

/-- The nodes in pre-order are those at the addresses, one after the other. -/
theorem map_at?_addresses (t : Tree) : t.addresses.map t.at? = t.preorder.map some := by
  induction t using inductionOnChildren with
  | node kind start stop flawed nodes ih =>
    have hbelow : (addressesFrom 0 nodes).map (node kind start stop flawed nodes).at? =
        (preorderAll nodes).map some := map_at?_addressesFrom rfl ih
    rw [addresses, preorder, List.map_cons, List.map_cons, hbelow]
    rfl

end Tree

/-! ## Moves -/

namespace Cursor

/-- A cursor stands at an address below the root of its walk. -/
inductive StandsAt (root : Tree) : Cursor → List Nat → Prop where
  | root : StandsAt root (ofTree root) []
  | child {c : Cursor} {path : List Nat} {i : Nat} {t : Tree} (h : StandsAt root c path)
    (hchild : c.focus.children[i]? = some t) :
    StandsAt root ⟨t, c.focus.children.drop (i + 1), (c.focus, c.right) :: c.up⟩ (path ++ [i])

variable {root : Tree} {c : Cursor} {path : List Nat}

theorem StandsAt.at? (h : StandsAt root c path) : root.at? path = some c.focus := by
  induction h with
  | root => rfl
  | child _ hchild ih => rw [Tree.at?_concat ih, hchild]

/-- What comes of a move: the cursor stands at the address then, or there is no node. -/
def LeadsTo (root : Tree) (move : Option Cursor) (a : List Nat) : Prop :=
  match move with
  | some c => StandsAt root c a
  | none => root.at? a = none

/-- A cursor that stands at an address moves to the neighbouring ones, as far as there are nodes below
the root of its walk. -/
structure MovesFrom (root : Tree) (c : Cursor) (path : List Nat) : Prop where
  firstChild : LeadsTo root c.firstChild? (path ++ [0])
  nextSibling : ∀ init i, path = init ++ [i] → LeadsTo root c.nextSibling? (init ++ [i + 1])
  parent : ∀ init i, path = init ++ [i] → ∃ above, c.parent? = some above ∧ StandsAt root above init
  root : path = [] → c.nextSibling? = none ∧ c.parent? = none

theorem StandsAt.firstChild (h : StandsAt root c path) :
    LeadsTo root c.firstChild? (path ++ [0]) := by
  unfold firstChild?
  split
  · next hnone => rw [LeadsTo, Tree.at?_concat h.at?, hnone]; rfl
  · next t rest hsome =>
    have hchild : c.focus.children[0]? = some t := by rw [hsome]; rfl
    have hrest : c.focus.children.drop 1 = rest := by rw [hsome]; rfl
    have hstands := h.child hchild
    rwa [hrest] at hstands

theorem StandsAt.nextSibling (h : StandsAt root c path) (i : Nat) (t : Tree) :
    LeadsTo root (nextSibling? ⟨t, c.focus.children.drop (i + 1), (c.focus, c.right) :: c.up⟩)
      (path ++ [i + 1]) := by
  unfold nextSibling?
  split
  · next hnone =>
    rw [LeadsTo, Tree.at?_concat h.at?, ← List.head?_drop]
    exact congrArg List.head? hnone
  · next u rest hsome =>
    have hnext : c.focus.children[i + 1]? = some u := by
      rw [← List.head?_drop]; exact congrArg List.head? hsome
    have hrest : c.focus.children.drop (i + 1 + 1) = rest := by
      rw [← List.tail_drop]; exact congrArg List.tail hsome
    have hstands := h.child hnext
    rwa [hrest] at hstands

theorem StandsAt.movesFrom (h : StandsAt root c path) : MovesFrom root c path := by
  cases h with
  | root =>
    refine ⟨StandsAt.root.firstChild, fun init i hp => ?_, fun init i hp => ?_, fun _ => ⟨rfl, rfl⟩⟩
    · simp at hp
    · simp at hp
  | @child c path i t h hchild =>
    refine ⟨(h.child hchild).firstChild, fun init j hp => ?_, fun init j hp => ?_, fun hp => ?_⟩
    · obtain ⟨rfl, hi⟩ := List.append_inj' hp rfl
      cases hi
      exact h.nextSibling i t
    · obtain ⟨rfl, -⟩ := List.append_inj' hp rfl
      exact ⟨c, rfl, h⟩
    · simp at hp

/-! ## What is left of a walk -/

/-- The nodes after the ancestors, those after the nearest one first. -/
def restAbove : List (Tree × List Tree) → List Tree
  | [] => []
  | (_, right) :: up => Tree.preorderAll right ++ restAbove up

/-- The nodes after the focus and everything below it. -/
def rest (c : Cursor) : List Tree := Tree.preorderAll c.right ++ restAbove c.up

theorem preorder_of_firstChild {child : Cursor} (h : c.firstChild? = some child) :
    c.focus.preorder ++ c.rest = c.focus :: (child.focus.preorder ++ child.rest) := by
  rcases hc : c with ⟨⟨kind, start, stop, flawed, nodes⟩, right, up⟩
  subst hc
  cases nodes with
  | nil => cases h
  | cons t ts =>
    cases h
    simp [Tree.preorder, Tree.preorderAll, rest, restAbove]

theorem preorder_of_no_child (h : c.firstChild? = none) : c.focus.preorder = [c.focus] := by
  rcases hc : c with ⟨⟨kind, start, stop, flawed, nodes⟩, right, up⟩
  subst hc
  cases nodes with
  | nil => rfl
  | cons t ts => cases h

theorem rest_of_nextSibling {next : Cursor} (h : c.nextSibling? = some next) :
    c.rest = next.focus.preorder ++ next.rest := by
  rcases hc : c with ⟨t, right, up⟩
  subst hc
  cases right with
  | nil => cases h
  | cons u us =>
    cases h
    simp [Tree.preorderAll, rest]

theorem rest_of_parent {above : Cursor} (hs : c.nextSibling? = none) (hp : c.parent? = some above) :
    c.rest = above.rest := by
  rcases hc : c with ⟨t, right, up⟩
  subst hc
  cases right with
  | cons u us => cases hs
  | nil =>
    cases up with
    | nil => cases hp
    | cons frame up => cases hp; rfl

theorem rest_of_root (hs : c.nextSibling? = none) (hp : c.parent? = none) : c.rest = [] := by
  rcases hc : c with ⟨t, right, up⟩
  subst hc
  cases right with
  | cons u us => cases hs
  | nil =>
    cases up with
    | nil => rfl
    | cons frame up => cases hp

/-- Climbing as far as needed leaves nothing out. -/
theorem rest_of_onward {next : Cursor} (h : c.onward? = some next) :
    c.rest = next.focus.preorder ++ next.rest := by
  fun_induction onward? c with
  | case1 c sibling hs => cases h; exact rest_of_nextSibling hs
  | case2 c hs above hp _ ih => rw [rest_of_parent hs hp, ih h]
  | case3 => cases h

theorem rest_of_no_onward (h : c.onward? = none) : c.rest = [] := by
  fun_induction onward? c with
  | case1 => cases h
  | case2 c hs above hp _ ih => rw [rest_of_parent hs hp, ih h]
  | case3 c hs hp => exact rest_of_root hs hp

theorem walk_eq {α : Type} (f : Tree → α) (c : Cursor) :
    c.walk f = (c.focus.preorder ++ c.rest).map f := by
  fun_induction walk f c with
  | case1 c ihChild ihOnward =>
    split
    · next child h => rw [preorder_of_firstChild h, List.map_cons, ihChild child h]
    · next h =>
      rw [preorder_of_no_child h, List.singleton_append, List.map_cons]
      split
      · next next hn => rw [rest_of_onward hn, ihOnward next hn]
      · next hn => rw [rest_of_no_onward hn]; rfl

/-! ## The loop, call by call -/

/-- Where the loop of a walk stands, with the kinds that it has noted. -/
inductive Loop where
  /-- At its head: the node is noted, and its first child asked for. -/
  | visit (c : Cursor) (noted : List String)
  /-- Everything below the node has been visited; its next sibling is asked for. -/
  | leave (c : Cursor) (noted : List String)
  /-- There is no sibling; the parent is asked for. -/
  | climb (c : Cursor) (noted : List String)
  | done (noted : List String)

namespace Loop

/-- One call of the cursor, and where the loop goes on. -/
def step : Loop → Option Loop
  | visit c noted =>
    match c.firstChild? with
    | some child => some (visit child (noted ++ [c.focus.kind]))
    | none => some (leave c (noted ++ [c.focus.kind]))
  | leave c noted =>
    match c.nextSibling? with
    | some next => some (visit next noted)
    | none => some (climb c noted)
  | climb c noted =>
    match c.parent? with
    | some above => some (leave above noted)
    | none => some (done noted)
  | done _ => none

/-- The loop comes from one place to another with the given number of calls. -/
inductive Runs : Nat → Loop → Loop → Prop where
  | refl (s : Loop) : Runs 0 s s
  | step {n : Nat} {s s' s'' : Loop} : s.step = some s' → Runs n s' s'' → Runs (n + 1) s s''

theorem Runs.trans {m n : Nat} {s s' s'' : Loop} (h : Runs m s s') (h' : Runs n s' s'') :
    Runs (m + n) s s'' := by
  induction h with
  | refl => simpa using h'
  | step hs _ ih => rw [Nat.add_right_comm]; exact .step hs (ih h')

theorem Runs.single {s s' : Loop} (h : s.step = some s') : Runs 1 s s' := .step h (.refl s')

end Loop

end Cursor

namespace Tree

mutual

/-- The calls from the visit of a node until all below it has been visited. -/
def calls : Tree → Nat
  | node _ _ _ _ children => 1 + callsAll children + if children.isEmpty then 0 else 1

/-- Those for siblings, with a call for the next sibling after each of them. -/
def callsAll : List Tree → Nat
  | [] => 0
  | t :: rest => t.calls + 1 + callsAll rest

end

/-- The nodes that have children. -/
def inner (t : Tree) : List Tree := t.preorder.filter (!·.children.isEmpty)

theorem callsAll_eq {ts : List Tree} (h : ∀ t ∈ ts, t.calls + 1 = 2 * t.size + t.inner.length) :
    callsAll ts = 2 * sizeAll ts + ((preorderAll ts).filter (!·.children.isEmpty)).length := by
  induction ts with
  | nil => rfl
  | cons t ts ih =>
    obtain ⟨ht, hts⟩ := List.forall_mem_cons.1 h
    rw [callsAll, sizeAll, preorderAll, List.filter_append, List.length_append, ht, ih hts, inner]
    omega

theorem calls_eq (t : Tree) : t.calls + 1 = 2 * t.size + t.inner.length := by
  induction t using inductionOnChildren with
  | node kind start stop flawed nodes ih =>
    rw [calls, size, inner, preorder, callsAll_eq ih]
    cases nodes with
    | nil => rfl
    | cons t ts =>
      rw [List.filter_cons_of_pos (by rfl), List.length_cons, List.isEmpty_cons]
      simp only [Bool.false_eq_true, if_false]
      omega

end Tree

namespace Cursor.Loop

/-- Siblings are visited one after the other, until there is no next one. -/
theorem runs_visit_siblings {t : Tree} {ts : List Tree} {up : List (Tree × List Tree)}
    {noted : List String}
    (h : ∀ c ∈ t :: ts, ∀ right noted, Runs c.calls (visit ⟨c, right, up⟩ noted)
      (leave ⟨c, right, up⟩ (noted ++ c.preorder.map Tree.kind))) :
    ∃ last, Runs (Tree.callsAll (t :: ts)) (visit ⟨t, ts, up⟩ noted)
      (climb ⟨last, [], up⟩ (noted ++ (Tree.preorderAll (t :: ts)).map Tree.kind)) := by
  induction ts generalizing t noted with
  | nil =>
    refine ⟨t, ?_⟩
    have hvisit := h t List.mem_cons_self [] noted
    rw [Tree.callsAll, Tree.callsAll, Tree.preorderAll, Tree.preorderAll, List.append_nil]
    exact hvisit.trans (.single rfl)
  | cons u us ih =>
    have hvisit := h t List.mem_cons_self (u :: us) noted
    obtain ⟨last, hrest⟩ := ih fun c hc => h c (List.mem_cons_of_mem _ hc)
    refine ⟨last, ?_⟩
    rw [Tree.callsAll, Tree.preorderAll, List.map_append, ← List.append_assoc]
    exact (hvisit.trans (.single rfl)).trans hrest

/-- From the visit of a node the loop comes to the point where it leaves it, with the nodes at and
below it noted. -/
theorem runs_visit (t : Tree) (right : List Tree) (up : List (Tree × List Tree))
    (noted : List String) :
    Runs t.calls (visit ⟨t, right, up⟩ noted)
      (leave ⟨t, right, up⟩ (noted ++ t.preorder.map Tree.kind)) := by
  induction t using Tree.inductionOnChildren generalizing right up noted with
  | node kind start stop flawed nodes ih =>
    rw [Tree.calls, Tree.preorder, List.map_cons, List.append_cons]
    cases nodes with
    | nil =>
      rw [Tree.preorderAll, List.map_nil, List.append_nil]
      exact .single rfl
    | cons t ts =>
      let above : Tree × List Tree := (.node kind start stop flawed (t :: ts), right)
      obtain ⟨last, hbelow⟩ := runs_visit_siblings fun c hc right noted =>
        ih c hc right (above :: up) noted
      exact ((Runs.single rfl).trans hbelow).trans (.single rfl)

theorem runs_kinds (t : Tree) :
    Runs (2 * t.size + t.inner.length + 1) (visit (ofTree t) []) (done (t.preorder.map Tree.kind)) := by
  have hvisit := runs_visit t [] [] []
  have hend : Runs 2 (leave (ofTree t) (t.preorder.map Tree.kind)) (done (t.preorder.map Tree.kind)) :=
    .step rfl (.single rfl)
  rw [← Tree.calls_eq]
  exact hvisit.trans hend

end Cursor.Loop

/-! ## Errors -/

namespace Tree

/-- The byte ranges of those of the nodes that stand for errors. -/
def errorRanges (nodes : List Tree) : List (Nat × Nat) :=
  (nodes.filter flawed).map fun n => (n.start.byte, n.stop.byte)

theorem collectErrorsAll_eq {ts : List Tree} {found : List (Nat × Nat)}
    (h : ∀ t ∈ ts, ∀ found, t.collectErrors found = found ++ errorRanges t.preorder) :
    collectErrorsAll found ts = found ++ errorRanges (preorderAll ts) := by
  induction ts generalizing found with
  | nil => exact (List.append_nil found).symm
  | cons t ts ih =>
    obtain ⟨ht, hts⟩ := List.forall_mem_cons.1 h
    rw [collectErrorsAll, ih hts, ht, preorderAll, List.append_assoc]
    simp only [errorRanges, List.filter_append, List.map_append]

theorem collectErrors_eq (t : Tree) (found : List (Nat × Nat)) :
    t.collectErrors found = found ++ errorRanges t.preorder := by
  induction t using inductionOnChildren generalizing found with
  | node kind start stop isFlawed nodes ih =>
    rw [collectErrors, collectErrorsAll_eq ih, preorder]
    cases isFlawed with
    | false => rfl
    | true =>
      rw [if_pos rfl, List.append_assoc]
      rfl

theorem kinds_eq (t : Tree) : t.kinds = t.preorder.map kind := by
  rw [kinds, Cursor.walk_eq]
  exact congrArg (List.map kind) (List.append_nil _)

/-- **The walk of a cursor is the pre-order.** The loop ends, after a number of calls that is known
from the tree, with the kinds of the nodes in pre-order; these are the nodes at all addresses, each of
them once, in lexicographic order. The cursor moves wherever there is a node to move to. The errors are
those of the nodes in the same order. -/
theorem walk_in_preorder (t : Tree) :
    t.kinds = t.preorder.map kind ∧
    Cursor.Loop.Runs (2 * t.size + t.inner.length + 1) (.visit (.ofTree t) []) (.done t.kinds) ∧
    (t.addresses.map t.at? = t.preorder.map some ∧ t.addresses.Pairwise (· < ·) ∧
      ∀ a, a ∈ t.addresses ↔ (t.at? a).isSome = true) ∧
    (∀ c a, Cursor.StandsAt t c a → Cursor.MovesFrom t c a) ∧
    t.errors = (t.preorder.filter flawed).map fun n => (n.start.byte, n.stop.byte) := by
  refine ⟨t.kinds_eq, ?_, ⟨map_at?_addresses t, addresses_increasing t, fun a => mem_addresses⟩,
    fun c a h => h.movesFrom, collectErrors_eq t []⟩
  rw [t.kinds_eq]
  exact Cursor.Loop.runs_kinds t

end Tree

/-- Two levels below the root, and two flaws: text that could not be read, and a semicolon that was put
in for one that is missing. -/
def Sample.flawedTree : Tree :=
  let leaf (kind : String) (start stop : Nat) (flawed : Bool) : Tree :=
    .node kind ⟨start, 0, start⟩ ⟨stop, 0, stop⟩ flawed []
  .node "program" ⟨0, 0, 0⟩ ⟨9, 0, 9⟩ false
    [.node "local_variable_declaration" ⟨0, 0, 0⟩ ⟨5, 0, 5⟩ false
      [leaf "integral_type" 0 4 false, leaf "variable_declarator" 4 5 false, leaf ";" 5 5 true],
    leaf "ERROR" 6 9 true]

/-- A cursor on the second leaf of the tree. -/
def Sample.leafCursor : Cursor :=
  ((Cursor.ofTree flawedTree).firstChild?.bind Cursor.firstChild?).bind Cursor.nextSibling?
    |>.getD (.ofTree flawedTree)

theorem Tree.walk_in_preorder_sample :
    Sample.flawedTree.kinds = ["program", "local_variable_declaration", "integral_type",
      "variable_declarator", ";", "ERROR"] ∧
    Cursor.Loop.Runs 15 (.visit (.ofTree Sample.flawedTree) []) (.done Sample.flawedTree.kinds) ∧
    Cursor.StandsAt Sample.flawedTree Sample.leafCursor [0, 1] ∧
    Cursor.MovesFrom Sample.flawedTree Sample.leafCursor [0, 1] ∧
    Sample.flawedTree.errors = [(5, 5), (6, 9)] := by
  obtain ⟨hkinds, hruns, -, hmoves, herrors⟩ := walk_in_preorder Sample.flawedTree
  have hfirst : Cursor.StandsAt Sample.flawedTree _ [0] := .child (i := 0) .root rfl
  have hleaf : Cursor.StandsAt Sample.flawedTree Sample.leafCursor [0, 1] :=
    hfirst.child (i := 1) rfl
  exact ⟨hkinds.trans rfl, hruns, hleaf, hmoves _ _ hleaf, herrors.trans rfl⟩

end LongSuffix
