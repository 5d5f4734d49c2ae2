import LongSuffix.Report.Basic
import Mathlib.Data.List.Induction
import Mathlib.Data.List.Lex
import Mathlib.Data.List.Sort
import Mathlib.Order.Defs.LinearOrder

/-!
# Groups of a report

The groups of a report stand in the strict order of their paths. So no two of them are of one
path, however it is spelled. Each insertion keeps the order, leaves no group empty, and adds one
position to those of one path; the path keeps the spelling it came with first (`Groups.Collects`).
So the groups are what the violations say, whatever order they are in and however often they are
said (`Groups.Collects.unspelled_eq`).
-/

namespace LongSuffix

/-! ## The order of paths -/

theorem Component.key_injective : Function.Injective Component.key := by
  have hchar : Function.Injective Char.toNat := fun c d h => Char.toNat_inj.1 h
  intro a b h
  cases a <;> cases b <;> simp [key] at h ⊢
  exact List.map_injective_iff.2 hchar h

namespace Path

theorem sameAs_iff {p q : Path} : p.sameAs q = true ↔ p.components = q.components := by
  rw [sameAs, beq_iff_eq]

theorem key_eq_iff {p q : Path} : p.key = q.key ↔ p.components = q.components :=
  (List.map_injective_iff.2 Component.key_injective).eq_iff

theorem before_iff {p q : Path} : p.before q = true ↔ p.key < q.key := by
  rw [before, decide_eq_true_iff]

theorem before_trans {p q r : Path} (h : p.before q = true) (h' : q.before r = true) :
    p.before r = true := by
  rw [before_iff] at *
  exact lt_trans h h'

theorem before_or_same_or_before (p q : Path) :
    p.before q = true ∨ p.sameAs q = true ∨ q.before p = true := by
  rw [before_iff, sameAs_iff, before_iff, ← key_eq_iff]
  exact lt_trichotomy p.key q.key

theorem components_ne_of_before {p q : Path} (h : p.before q = true) :
    p.components ≠ q.components := by
  rw [before_iff] at h
  exact fun he => h.ne (key_eq_iff.2 he)

end Path

/-! ## Sets of positions -/

namespace PositionSet

instance : Std.Irrefl (α := Position) (· < ·) := ⟨Position.lt_irrefl⟩

instance : Std.Antisymm (α := Position) (· < ·) :=
  ⟨fun p _ h h' => absurd (Position.lt_trans h h') (Position.lt_irrefl p)⟩

/-- A set is known by its members. -/
theorem eq_of_mem_iff {s t : PositionSet} (h : ∀ p, p ∈ s ↔ p ∈ t) : s = t := by
  obtain ⟨l, hl⟩ := s
  obtain ⟨m, hm⟩ := t
  obtain rfl : l = m := hl.eq_of_mem_iff hm h
  rfl

theorem isEmpty_eq_false_iff {s : PositionSet} : s.isEmpty = false ↔ ∃ p, p ∈ s :=
  List.isEmpty_eq_false_iff_exists_mem

theorem isEmpty_insert (s : PositionSet) (p : Position) : (s.insert p).isEmpty = false :=
  isEmpty_eq_false_iff.2 ⟨p, mem_insert.2 (.inl rfl)⟩

@[simp] theorem not_mem_empty (p : Position) : p ∉ empty := List.not_mem_nil

end PositionSet

/-! ## The order of groups -/

namespace Groups

/-- The paths of the groups are strictly increasing. -/
def Ordered (groups : Groups) : Prop := groups.Pairwise fun g g' => g.1.before g'.1 = true

variable {path : Path} {p q : Position} {groups : Groups} {k : List Component}

/-- What an insertion does: the position joins the group of its path, or a group of its own is put
into its place. -/
theorem Ordered.insert_cases (h : Ordered groups) (path : Path) (p : Position) :
    (∃ before path' positions after, groups = before ++ (path', positions) :: after ∧
        path'.components = path.components ∧
        Groups.insert path p groups = before ++ (path', positions.insert p) :: after) ∨
      ∃ before after, groups = before ++ after ∧ (∀ g ∈ before, g.1.before path = true) ∧
        (∀ g ∈ after, path.before g.1 = true) ∧
        Groups.insert path p groups = before ++ (path, PositionSet.empty.insert p) :: after := by
  induction groups with
  | nil => exact .inr ⟨[], [], rfl, by simp, by simp, rfl⟩
  | cons first rest ih =>
    obtain ⟨path', positions⟩ := first
    obtain ⟨hfirst, hrest⟩ := List.pairwise_cons.1 h
    rw [Groups.insert]
    split
    · next hsame => exact .inl ⟨[], _, _, _, rfl, (Path.sameAs_iff.1 hsame).symm, rfl⟩
    · next hsame =>
      split
      · next hbefore =>
        refine .inr ⟨[], _, rfl, by simp, List.forall_mem_cons.2 ⟨hbefore, fun g hg => ?_⟩, rfl⟩
        exact Path.before_trans hbefore (hfirst g hg)
      · next hbefore =>
        have hafter : path'.before path = true := by
          obtain hb | hs | hb := Path.before_or_same_or_before path path'
          · exact absurd hb hbefore
          · exact absurd hs hsame
          · exact hb
        obtain ⟨before, q, ps, after, rfl, hq, heq⟩ | ⟨before, after, rfl, hb, ha, heq⟩ := ih hrest
        · exact .inl ⟨_ :: before, q, ps, after, rfl, hq, by rw [heq]; rfl⟩
        · exact .inr ⟨_ :: before, after, rfl, List.forall_mem_cons.2 ⟨hafter, hb⟩, ha,
            by rw [heq]; rfl⟩

theorem ordered_iff :
    Ordered groups ↔ (groups.map Prod.fst).Pairwise (Path.before · · = true) := by
  rw [Ordered, List.pairwise_map]

theorem Ordered.insert (h : Ordered groups) : Ordered (Groups.insert path p groups) := by
  obtain ⟨before, path', positions, after, rfl, -, heq⟩ | ⟨before, after, rfl, hb, ha, heq⟩ :=
    h.insert_cases path p
  · rw [heq]
    rw [ordered_iff] at h ⊢
    simpa using h
  · rw [heq]
    obtain ⟨hbefore, hafter, hacross⟩ := List.pairwise_append.1 h
    refine List.pairwise_append.2 ⟨hbefore, List.pairwise_cons.2 ⟨ha, hafter⟩, fun g hg => ?_⟩
    exact List.forall_mem_cons.2 ⟨hb g hg, hacross g hg⟩

/-- The groups have a position under the components of a path. -/
def Has (groups : Groups) (k : List Component) (p : Position) : Prop :=
  ∃ g ∈ groups, g.1.components = k ∧ p ∈ g.2

theorem has_append {groups' : Groups} :
    Has (groups ++ groups') k p ↔ Has groups k p ∨ Has groups' k p := by
  simp only [Has, List.mem_append, or_and_right, exists_or]

theorem has_cons {g : Path × PositionSet} :
    Has (g :: groups) k p ↔ g.1.components = k ∧ p ∈ g.2 ∨ Has groups k p := by
  simp only [Has, List.mem_cons, exists_eq_or_imp]

theorem Ordered.has_insert (h : Ordered groups) :
    Has (Groups.insert path q groups) k p ↔ path.components = k ∧ p = q ∨ Has groups k p := by
  obtain ⟨before, path', positions, after, rfl, hpath, heq⟩ | ⟨before, after, rfl, -, -, heq⟩ :=
    h.insert_cases path q
  · simp only [heq, has_append, has_cons, PositionSet.mem_insert, hpath, and_or_left, or_assoc]
    exact or_left_comm
  · simp only [heq, has_append, has_cons, PositionSet.mem_insert, PositionSet.not_mem_empty,
      or_false]
    exact or_left_comm

theorem Ordered.isEmpty_insert (h : Ordered groups) (hne : ∀ g ∈ groups, g.2.isEmpty = false) :
    ∀ g ∈ Groups.insert path p groups, g.2.isEmpty = false := by
  obtain ⟨before, path', positions, after, rfl, -, heq⟩ | ⟨before, after, rfl, -, -, heq⟩ :=
    h.insert_cases path p
  all_goals
    simp only [heq, List.forall_mem_append, List.forall_mem_cons] at hne ⊢
  · exact ⟨hne.1, PositionSet.isEmpty_insert positions p, hne.2.2⟩
  · exact ⟨hne.1, PositionSet.isEmpty_insert _ p, hne.2⟩

/-- A group has a path that was there, or the new one, and then no group was of this path. -/
theorem Ordered.path_of_mem_insert (h : Ordered groups) {g : Path × PositionSet}
    (hg : g ∈ Groups.insert path p groups) :
    (∃ g' ∈ groups, g.1 = g'.1) ∨
      g.1 = path ∧ ∀ g' ∈ groups, g'.1.components ≠ path.components := by
  obtain ⟨before, path', positions, after, rfl, -, heq⟩ | ⟨before, after, rfl, hb, ha, heq⟩ :=
    h.insert_cases path p
  all_goals
    simp only [heq, List.mem_append, List.mem_cons] at hg
  · rcases hg with hg | rfl | hg
    · exact .inl ⟨g, List.mem_append_left _ hg, rfl⟩
    · exact .inl ⟨(path', positions), by simp, rfl⟩
    · exact .inl ⟨g, by simp [hg], rfl⟩
  · rcases hg with hg | rfl | hg
    · exact .inl ⟨g, List.mem_append_left _ hg, rfl⟩
    · refine .inr ⟨rfl, List.forall_mem_append.2 ⟨fun g' hg' => ?_, fun g' hg' => ?_⟩⟩
      · exact Path.components_ne_of_before (hb g' hg')
      · exact (Path.components_ne_of_before (ha g' hg')).symm
    · exact .inl ⟨g, List.mem_append_right _ hg, rfl⟩

/-! ## All insertions -/

/-- The groups are those of the valid positions of some violations, where `place` says which file a
violation is in: in strict order, none of them empty, each with exactly the positions of its path,
and spelled as the first of them. -/
structure Collects (groups : Groups) (place : Violation → Path) (vs : List Violation) : Prop where
  ordered : Ordered groups
  nonempty : ∀ g ∈ groups, g.2.isEmpty = false
  has_iff : ∀ k p, Has groups k p ↔
    ∃ v ∈ vs, v.position = .ok p ∧ (place v).components = k
  spelling : ∀ g ∈ groups,
    (vs.find? fun v => v.position.isOk && (place v).sameAs g.1).map place = some g.1

namespace Collects

variable {place : Violation → Path} {vs : List Violation} {v : Violation}

theorem nil : Collects [] place [] where
  ordered := .nil
  nonempty := by simp
  has_iff := by simp [Has]
  spelling := by simp

theorem skip (h : groups.Collects place vs) {e : PositionError} (hv : v.position = .error e) :
    groups.Collects place (vs ++ [v]) where
  ordered := h.ordered
  nonempty := h.nonempty
  has_iff k p := by
    rw [h.has_iff]
    simp [or_and_right, exists_or, hv]
  spelling g hg := by
    obtain ⟨first, hfirst, hplace⟩ := Option.map_eq_some_iff.1 (h.spelling g hg)
    rw [List.find?_append, hfirst, Option.some_or, Option.map_some, hplace]

theorem insert (h : groups.Collects place vs) (hv : v.position = .ok p) :
    (Groups.insert (place v) p groups).Collects place (vs ++ [v]) where
  ordered := h.ordered.insert
  nonempty := h.ordered.isEmpty_insert h.nonempty
  has_iff k q := by
    rw [h.ordered.has_insert, h.has_iff]
    constructor
    · rintro (⟨hk, rfl⟩ | ⟨v', hv', hq, hk⟩)
      · exact ⟨v, List.mem_append_right _ List.mem_cons_self, hv, hk⟩
      · exact ⟨v', List.mem_append_left _ hv', hq, hk⟩
    · rintro ⟨v', hv', hq, hk⟩
      rcases List.mem_append.1 hv' with hv' | hv'
      · exact .inr ⟨v', hv', hq, hk⟩
      · obtain rfl := List.mem_singleton.1 hv'
        rw [hv] at hq
        cases hq
        exact .inl ⟨hk, rfl⟩
  spelling g hg := by
    obtain ⟨g', hg', he⟩ | ⟨he, hnew⟩ := h.ordered.path_of_mem_insert hg
    · obtain ⟨first, hfirst, hplace⟩ := Option.map_eq_some_iff.1 (h.spelling g' hg')
      rw [he, List.find?_append, hfirst, Option.some_or, Option.map_some, hplace]
    · -- No violation before this one is in the same file, or there would be a group.
      have hnone : (vs.find? fun v' => v'.position.isOk && (place v').sameAs (place v)) = none := by
        rw [List.find?_eq_none]
        intro v' hv' hfound
        simp only [Bool.and_eq_true, Path.sameAs_iff] at hfound
        cases hp : v'.position with
        | error e => rw [hp] at hfound; cases hfound.1
        | ok q =>
          obtain ⟨g', hg', hsame, -⟩ := (h.has_iff _ q).2 ⟨v', hv', hp, hfound.2⟩
          exact hnew g' hg' hsame
      have hhere : (v.position.isOk && (place v).sameAs (place v)) = true := by
        rw [hv, Bool.and_eq_true, Path.sameAs_iff]
        exact ⟨rfl, rfl⟩
      rw [he, List.find?_append, hnone, Option.none_or, List.find?_cons, hhere, Option.map_some]

end Collects

/-! ## Groups without their spelling -/

/-- The components of the paths in place of the paths. -/
def unspelled (groups : Groups) : List (List Component × PositionSet) :=
  groups.map fun g => (g.1.components, g.2)

theorem Ordered.eq_of_components_eq (h : Ordered groups) {g g' : Path × PositionSet}
    (hg : g ∈ groups) (hg' : g' ∈ groups) (he : g.1.components = g'.1.components) : g = g' := by
  have hnodup : (groups.map fun g => g.1.components).Nodup :=
    List.pairwise_map.2 (h.imp Path.components_ne_of_before)
  exact List.inj_on_of_nodup_map hnodup hg hg' he

/-- What is in the groups is said by the violations alone. -/
theorem Collects.mem_unspelled {place : Violation → Path} {vs : List Violation}
    (h : groups.Collects place vs) {ps : PositionSet} :
    (k, ps) ∈ groups.unspelled ↔ ps.isEmpty = false ∧
      ∀ p, p ∈ ps ↔ ∃ v ∈ vs, v.position = .ok p ∧ (place v).components = k := by
  simp only [unspelled, List.mem_map, ← h.has_iff]
  constructor
  · rintro ⟨g, hg, ⟨⟩⟩
    refine ⟨h.nonempty g hg, fun p => ⟨fun hp => ⟨g, hg, rfl, hp⟩, ?_⟩⟩
    rintro ⟨g', hg', he, hp⟩
    rwa [← h.ordered.eq_of_components_eq hg' hg he]
  · rintro ⟨hne, hps⟩
    obtain ⟨p, hp⟩ := PositionSet.isEmpty_eq_false_iff.1 hne
    obtain ⟨g, hg, rfl, -⟩ := (hps p).1 hp
    refine ⟨g, hg, Prod.ext rfl (PositionSet.eq_of_mem_iff fun q => ?_)⟩
    rw [hps]
    refine ⟨fun hq => ⟨g, hg, rfl, hq⟩, ?_⟩
    rintro ⟨g', hg', he, hq⟩
    rwa [← h.ordered.eq_of_components_eq hg' hg he]

/-- The strict order of groups without their spelling. -/
def Precedes (a b : List Component × PositionSet) : Prop :=
  a.1.map Component.key < b.1.map Component.key

instance : Std.Irrefl Precedes := ⟨fun _ => lt_irrefl _⟩

instance : Std.Antisymm Precedes := ⟨fun _ _ h h' => absurd h (lt_asymm h')⟩

theorem Ordered.unspelled (h : Ordered groups) : groups.unspelled.Pairwise Precedes :=
  List.pairwise_map.2 (h.imp Path.before_iff.1)

theorem Collects.unspelled_eq {place : Violation → Path} {vs vs' : List Violation}
    {groups' : Groups} (h : groups.Collects place vs) (h' : groups'.Collects place vs')
    (hvs : ∀ v, v ∈ vs ↔ v ∈ vs') : groups.unspelled = groups'.unspelled := by
  refine h.ordered.unspelled.eq_of_mem_iff h'.ordered.unspelled fun g => ?_
  obtain ⟨k, ps⟩ := g
  simp only [h.mem_unspelled, h'.mem_unspelled, hvs]

end Groups

theorem ViolationReport.collects_groups (r : ViolationReport) (workspace : Path) :
    (r.groups workspace).Collects (r.resolve workspace) r.violations := by
  unfold groups
  generalize r.violations = vs
  induction vs using List.reverseRecOn with
  | nil => exact .nil
  | append_singleton vs v ih =>
    rw [List.foldl_append, List.foldl_cons, List.foldl_nil]
    cases hv : v.position with
    | ok p => exact ih.insert hv
    | error e => exact ih.skip hv

theorem ViolationReport.groups_ordered (r : ViolationReport) (workspace : Path) :
    (r.groups workspace).Ordered := (r.collects_groups workspace).ordered

/-- No path is in two groups. -/
theorem ViolationReport.groups_components_ne (r : ViolationReport) (workspace : Path) :
    (r.groups workspace).Pairwise fun g g' => g.1.components ≠ g'.1.components :=
  (r.groups_ordered workspace).imp Path.components_ne_of_before

end LongSuffix
