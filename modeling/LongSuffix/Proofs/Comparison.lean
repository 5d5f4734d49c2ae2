import LongSuffix.Java.Parse
import LongSuffix.Proofs.Preorder

/-!
# What a comparison of structures says

Two sources are compared by their outlines: the kinds of the nodes in pre-order, and the byte ranges of
the nodes that stand for errors. The second source may stand for the first if the kinds are the same and
no error is new. This is reflexive and transitive, and the comparison decides it. Where it does not hold,
the comparison says what is in the way, and of several things the first in a fixed order: another number
of nodes, the first node of another kind, the one new error, the number of new errors
(`Outline.Differs`, `Analyzer.check_decides`).
-/

namespace LongSuffix

/-- What structures are compared by. -/
structure Outline where
  kinds : List String
  errors : List (Nat × Nat)

def Tree.outline (t : Tree) : Outline := ⟨t.preorder.map kind, errorRanges t.preorder⟩

namespace Outline

/-- The second outline may stand for the first. -/
structure Keeps (o o' : Outline) : Prop where
  kinds : o.kinds = o'.kinds
  errors : ∀ range ∈ o'.errors, range ∈ o.errors

/-- How many errors of the second outline the first one does not have. A range that comes twice counts
twice. -/
def newErrors (o o' : Outline) : Nat := o'.errors.countP fun range => range ∉ o.errors

/-- What keeps the second outline from standing for the first. -/
inductive Differs (o o' : Outline) : SyntaxFault → Prop where
  | count (h : o.kinds.length ≠ o'.kinds.length) :
    Differs o o' (.structureChanged o.kinds.length o'.kinds.length)
  | kind {i : Nat} {kind kind' : String} (hcount : o.kinds.length = o'.kinds.length)
    (hkind : o.kinds[i]? = some kind) (hkind' : o'.kinds[i]? = some kind') (h : kind ≠ kind')
    (hleast : ∀ j < i, o.kinds[j]? = o'.kinds[j]?) : Differs o o' (.nodeKindChanged i kind kind')
  | error {start stop : Nat} (hkinds : o.kinds = o'.kinds) (hin : (start, stop) ∈ o'.errors)
    (hnew : (start, stop) ∉ o.errors) (h : o.newErrors o' = 1) : Differs o o' (.syntaxError start stop)
  | errors (hkinds : o.kinds = o'.kinds) (h : 1 < o.newErrors o') :
    Differs o o' (.multipleSyntaxErrors (o.newErrors o'))

theorem Keeps.refl (o : Outline) : o.Keeps o := ⟨rfl, fun _ h => h⟩

theorem Keeps.trans {o o' o'' : Outline} (h : o.Keeps o') (h' : o'.Keeps o'') : o.Keeps o'' :=
  ⟨h.kinds.trans h'.kinds, fun range hrange => h.errors range (h'.errors range hrange)⟩

theorem newErrors_eq_zero {o o' : Outline} :
    o.newErrors o' = 0 ↔ ∀ range ∈ o'.errors, range ∈ o.errors := by
  simp [newErrors, List.countP_eq_zero]

end Outline

/-! ## The first difference of two lists -/

section

variable {α : Type} [DecidableEq α] {as bs : List α}

theorem firstDifference_eq_some {i : Nat} {a b : α} :
    firstDifference as bs = some (i, a, b) ↔
      as[i]? = some a ∧ bs[i]? = some b ∧ a ≠ b ∧ ∀ j < i, as[j]? = bs[j]? := by
  fun_induction firstDifference as bs generalizing i with
  | case1 as y bs ih =>
    cases i with
    | zero =>
      simp only [List.getElem?_cons_zero, Option.some.injEq]
      exact iff_of_false (by simp) fun ⟨ha, hb, hne, _⟩ => hne (ha.symm.trans hb)
    | succ i => rw [Nat.forall_lt_succ_left]; simp [ih]
  | case2 x as y bs hxy =>
    cases i with
    | zero => simp; rintro rfl rfl; exact hxy
    | succ i =>
      refine iff_of_false (by simp) fun ⟨_, _, _, hfirst⟩ => ?_
      exact hxy (Option.some.inj (hfirst 0 (Nat.succ_pos i)))
  | case3 as bs hshort =>
    refine iff_of_false (by simp) ?_
    rintro ⟨ha, hb, -⟩
    cases as with
    | nil => cases ha
    | cons x as =>
      cases bs with
      | nil => cases hb
      | cons y bs => exact hshort x as y bs rfl rfl

theorem firstDifference_eq_none (h : as.length = bs.length) :
    firstDifference as bs = none ↔ as = bs := by
  fun_induction firstDifference as bs with
  | case1 as y bs ih => simp [ih (Nat.succ.inj h)]
  | case2 x as y bs hxy => simp [hxy]
  | case3 as bs hshort =>
    cases as with
    | nil => simp [List.length_eq_zero_iff.1 h.symm]
    | cons x as =>
      cases bs with
      | nil => cases h
      | cons y bs => exact absurd rfl (hshort x as y bs rfl)

end

/-! ## What is said of two trees -/

namespace Tree

theorem kinds_outline (t : Tree) : t.kinds = t.outline.kinds := t.kinds_eq

theorem errors_outline (t : Tree) : t.errors = t.outline.errors := collectErrors_eq t []

variable {t t' : Tree}

/-- The errors that the comparison takes for new ones. -/
def introduced (t t' : Tree) : List (Nat × Nat) := t'.errors.filter (!t.errors.contains ·)

theorem mem_introduced {range : Nat × Nat} :
    range ∈ t.introduced t' ↔ range ∈ t'.outline.errors ∧ range ∉ t.outline.errors := by
  simp [introduced, errors_outline]

theorem length_introduced (t t' : Tree) :
    (t.introduced t').length = t.outline.newErrors t'.outline := by
  rw [introduced, errors_outline, errors_outline, Outline.newErrors, List.countP_eq_length_filter]
  simp

theorem compare_of_count (h : t.outline.kinds.length ≠ t'.outline.kinds.length) :
    t.compare t' =
      .error (.structureChanged t.outline.kinds.length t'.outline.kinds.length) := by
  simp only [compare, kinds_outline, if_pos h]

theorem compare_of_kind {i : Nat} {kind kind' : String}
    (h : t.outline.kinds.length = t'.outline.kinds.length)
    (hfirst : firstDifference t.outline.kinds t'.outline.kinds = some (i, kind, kind')) :
    t.compare t' = .error (.nodeKindChanged i kind kind') := by
  simp only [compare, kinds_outline, ne_eq, h, not_true_eq_false, if_false, hfirst]

/-- With the same kinds the new errors decide. -/
theorem compare_of_kinds_eq (h : t.outline.kinds = t'.outline.kinds) :
    t.compare t' = match t.introduced t' with
      | [] => .ok ()
      | [(start, stop)] => .error (.syntaxError start stop)
      | many => .error (.multipleSyntaxErrors many.length) := by
  have hfirst := (firstDifference_eq_none (congrArg List.length h)).2 h
  simp only [compare, kinds_outline, ne_eq, h, not_true_eq_false, if_false]
  rw [h] at hfirst
  simp only [hfirst]
  rfl

theorem compare_cases (t t' : Tree) :
    t.compare t' = .ok () ∧ t.outline.Keeps t'.outline ∨
      ∃ fault, t.compare t' = .error fault ∧ t.outline.Differs t'.outline fault := by
  by_cases hcount : t.outline.kinds.length = t'.outline.kinds.length
  case neg => exact .inr ⟨_, compare_of_count hcount, .count hcount⟩
  cases hfirst : firstDifference t.outline.kinds t'.outline.kinds with
  | some difference =>
    obtain ⟨i, kind, kind'⟩ := difference
    obtain ⟨hkind, hkind', hne, hleast⟩ := firstDifference_eq_some.1 hfirst
    exact .inr ⟨_, compare_of_kind hcount hfirst, .kind hcount hkind hkind' hne hleast⟩
  | none =>
    have hkinds := (firstDifference_eq_none hcount).1 hfirst
    have hcompare := compare_of_kinds_eq hkinds
    have hnumber := length_introduced t t'
    match hnew : t.introduced t' with
    | [] =>
      rw [hnew] at hcompare hnumber
      exact .inl ⟨hcompare, hkinds, Outline.newErrors_eq_zero.1 hnumber.symm⟩
    | [(start, stop)] =>
      rw [hnew] at hcompare hnumber
      have hmem := mem_introduced.1 (hnew ▸ List.mem_singleton_self (start, stop))
      exact .inr ⟨_, hcompare, .error hkinds hmem.1 hmem.2 hnumber.symm⟩
    | first :: second :: rest =>
      rw [hnew] at hcompare hnumber
      refine .inr ⟨_, hcompare, ?_⟩
      rw [hnumber]
      exact .errors hkinds (hnumber ▸ Nat.succ_lt_succ (Nat.succ_pos rest.length))

theorem compare_of_keeps (h : t.outline.Keeps t'.outline) : t.compare t' = .ok () := by
  have hnew : t.introduced t' = [] := by
    rw [← List.length_eq_zero_iff, length_introduced]
    exact Outline.newErrors_eq_zero.2 h.errors
  rw [compare_of_kinds_eq h.kinds, hnew]

theorem compare_of_differs {fault : SyntaxFault} (h : t.outline.Differs t'.outline fault) :
    t.compare t' = .error fault := by
  cases h with
  | count h => exact compare_of_count h
  | kind hcount hkind hkind' hne hleast =>
    exact compare_of_kind hcount (firstDifference_eq_some.2 ⟨hkind, hkind', hne, hleast⟩)
  | error hkinds hin hnew h =>
    rw [← length_introduced] at h
    obtain ⟨range, hrange⟩ := List.length_eq_one_iff.1 h
    have hmem := mem_introduced.2 ⟨hin, hnew⟩
    rw [hrange] at hmem
    obtain rfl := List.mem_singleton.1 hmem
    rw [compare_of_kinds_eq hkinds, hrange]
  | errors hkinds h =>
    rw [← length_introduced] at h ⊢
    rw [compare_of_kinds_eq hkinds]
    match hnew : t.introduced t' with
    | [] => rw [hnew] at h; cases h
    | [_] => rw [hnew] at h; exact absurd h (Nat.lt_irrefl 1)
    | _ :: _ :: _ => rfl

theorem compare_eq_ok : t.compare t' = .ok () ↔ t.outline.Keeps t'.outline := by
  refine ⟨fun h => ?_, compare_of_keeps⟩
  obtain ⟨-, hkeeps⟩ | ⟨fault, hfault, -⟩ := compare_cases t t'
  · exact hkeeps
  · rw [h] at hfault
    cases hfault

theorem compare_eq_error {fault : SyntaxFault} :
    t.compare t' = .error fault ↔ t.outline.Differs t'.outline fault := by
  refine ⟨fun h => ?_, compare_of_differs⟩
  obtain ⟨hok, -⟩ | ⟨fault', hfault, hdiffers⟩ := compare_cases t t'
  · rw [h] at hok
    cases hok
  · rw [h] at hfault
    cases hfault
    exact hdiffers

end Tree

/-! ## What is said of two sources -/

namespace Analyzer

variable {parse : String → Except SyntaxFault Tree} {before after : String}

theorem check_of_trees {t t' : Tree} (h : parse before = .ok t) (h' : parse after = .ok t') :
    (ofParser parse).check before after = t.compare t' := by
  show (do (← parse before).compare (← parse after)) = _
  rw [h, h']
  rfl

/-- Only sources that have trees are accepted. -/
theorem check_eq_ok : (ofParser parse).check before after = .ok () ↔
    ∃ t t', parse before = .ok t ∧ parse after = .ok t' ∧ t.outline.Keeps t'.outline := by
  constructor
  · intro h
    have hbind : (do (← parse before).compare (← parse after)) = Except.ok () := h
    cases hbefore : parse before with
    | error fault => rw [hbefore] at hbind; cases hbind
    | ok t =>
      cases hafter : parse after with
      | error fault => rw [hbefore, hafter] at hbind; cases hbind
      | ok t' =>
        rw [check_of_trees hbefore hafter] at h
        exact ⟨t, t', rfl, rfl, Tree.compare_eq_ok.1 h⟩
  · rintro ⟨t, t', hbefore, hafter, hkeeps⟩
    rw [check_of_trees hbefore hafter, Tree.compare_of_keeps hkeeps]

/-- **The structure check decides a preorder and tells what is in the way.** A source is accepted for
another one exactly if the kinds of the nodes are the same and each error is one of the other source;
so it is accepted for itself, and acceptance goes on from source to source. Otherwise the fault is the
one that `Outline.Differs` gives. -/
theorem check_decides (parse : String → Except SyntaxFault Tree) :
    (∀ before after, (ofParser parse).check before after = .ok () ↔
      ∃ t t', parse before = .ok t ∧ parse after = .ok t' ∧ t.outline.Keeps t'.outline) ∧
    (∀ source t, parse source = .ok t → (ofParser parse).check source source = .ok ()) ∧
    (∀ first second third, (ofParser parse).check first second = .ok () →
      (ofParser parse).check second third = .ok () → (ofParser parse).check first third = .ok ()) ∧
    ∀ before after t t', parse before = .ok t → parse after = .ok t' →
      ∀ fault, (ofParser parse).check before after = .error fault ↔
        t.outline.Differs t'.outline fault := by
  refine ⟨fun before after => check_eq_ok, fun source t h => ?_, fun first second third h h' => ?_,
    fun before after t t' h h' fault => ?_⟩
  · exact check_eq_ok.2 ⟨t, t, h, h, .refl _⟩
  · obtain ⟨t, t', hfirst, hsecond, hkeeps⟩ := check_eq_ok.1 h
    obtain ⟨_, t'', hsecond', hthird, hkeeps'⟩ := check_eq_ok.1 h'
    obtain rfl := Except.ok.inj (hsecond.symm.trans hsecond')
    exact check_eq_ok.2 ⟨t, t'', hfirst, hthird, hkeeps.trans hkeeps'⟩
  · rw [check_of_trees h h', Tree.compare_eq_error]

/-- Two letters are raised one after the other; and three texts that cannot stand for a source: with an
operator, with a name for a number, and without the semicolon. -/
theorem check_decides_sample :
    let outline := fun text => (Java.parse text).outline
    (Java.analyzer.check "f(1l,2l);" "f(1L,2l);" = .ok () ∧
        Java.analyzer.check "f(1L,2l);" "f(1L,2L);" = .ok ()) ∧
      (Java.analyzer.check "f(1l,2l);" "f(1l,2l);" = .ok () ∧
        Java.analyzer.check "f(1l,2l);" "f(1L,2L);" = .ok () ∧
        (outline "f(1l,2l);").Keeps (outline "f(1L,2l);")) ∧
      (outline "a=1l;").Differs (outline "a=1l+2;") (.structureChanged 7 10) ∧
      (outline "a=1l;").Differs (outline "a=bl;")
        (.nodeKindChanged 5 "decimal_integer_literal" "identifier") ∧
      (outline "a=1l;").Differs (outline "a=1l") (.syntaxError 4 4) := by
  intro outline
  obtain ⟨hok, hrefl, htrans, hfault⟩ := check_decides fun text => .ok (Java.parse text)
  have hfirst : Java.analyzer.check "f(1l,2l);" "f(1L,2l);" = .ok () := by decide +kernel
  have hsecond : Java.analyzer.check "f(1L,2l);" "f(1L,2L);" = .ok () := by decide +kernel
  obtain ⟨_, _, ⟨⟩, ⟨⟩, hkeeps⟩ := (hok _ _).1 hfirst
  have hdiffers {text : String} {fault : SyntaxFault}
      (h : Java.analyzer.check "a=1l;" text = .error fault) :
      (outline "a=1l;").Differs (outline text) fault :=
    (hfault "a=1l;" text _ _ rfl rfl fault).1 h
  exact ⟨⟨hfirst, hsecond⟩, ⟨hrefl _ _ rfl, htrans _ _ _ hfirst hsecond, hkeeps⟩,
    hdiffers (by decide +kernel), hdiffers (by decide +kernel), hdiffers (by decide +kernel)⟩

end Analyzer

end LongSuffix
