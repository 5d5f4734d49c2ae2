import LongSuffix.Proofs.Attempt
import Mathlib.Data.List.Perm.Basic

/-!
# What a batch does

A batch raises exactly the letters that its report calls fixed, and the report has one outcome for
each position, in order (`fix?_describes`). The positions do not get into each other's way: each has
the status that it has alone on the document as it was, so they can be tried in any order and in
several batches (`attemptAll_order_free`).
-/

namespace LongSuffix

namespace FixReport

/-- The report has the position, as fixed. -/
def Fixes (r : FixReport) (p : Position) : Prop :=
  ∃ o ∈ r.outcomes, o.position = p ∧ o.status = .fixed

/-- The positions of the report, each with its status. -/
def statuses (r : FixReport) : List (Position × Status) :=
  r.outcomes.map fun o => (o.position, o.status)

/-- The report tells what became of a document: the letters that it calls fixed were raised, and
nothing else happened. -/
structure Describes (r : FixReport) (d d' : Document) : Prop where
  lineCount : d'.lineCount = d.lineCount
  ending : ∀ i, d'.ending? i = d.ending? i
  length : ∀ i, (d'.line? i).map List.length = (d.line? i).map List.length
  raised : ∀ p, r.Fixes p → d.at? p = some 'l' ∧ d'.at? p = some 'L'
  kept : ∀ p, ¬ r.Fixes p → d'.at? p = d.at? p
  count : differences d.chars d'.chars = r.fixedCount
  bytes : d'.render.utf8ByteSize = d.render.utf8ByteSize

theorem fixes_iff {r : FixReport} {p : Position} : r.Fixes p ↔ (p, .fixed) ∈ r.statuses := by
  simp [Fixes, statuses]

end FixReport

theorem Outcome.isFixed_iff {o : Outcome} : o.isFixed = true ↔ o.status = .fixed := by
  rw [isFixed, beq_iff_eq, status, Attempt.status_eq_fixed]

theorem PositionSet.nodup (s : PositionSet) : s.toList.Nodup := by
  refine List.Pairwise.imp ?_ s.sorted
  rintro p _ h rfl
  exact Position.lt_irrefl p h

theorem Document.at?_foldl_raise (ps : List Position) (d : Document) (q : Position) :
    (ps.foldl Document.raise d).at? q = if q ∈ ps then (d.at? q).map fun _ => 'L' else d.at? q := by
  induction ps generalizing d with
  | nil => simp
  | cons p ps ih =>
    rw [List.foldl_cons, ih, at?_raise]
    by_cases hqp : q = p
    · simp [hqp, Function.comp_def]
    · simp [hqp]

namespace Locator

variable (loc : Locator) {d : Document} {l l' : List Position}

/-! ## Runs over a list of positions -/

theorem attemptAll_cons (p : Position) (l : List Position) :
    loc.attemptAll d (p :: l) =
      (⟨p, (loc.attempt d p).1⟩ :: (loc.attemptAll (loc.attempt d p).2 l).1,
        (loc.attemptAll (loc.attempt d p).2 l).2) := rfl

theorem attemptAll_append (l l' : List Position) :
    loc.attemptAll d (l ++ l') =
      ((loc.attemptAll d l).1 ++ (loc.attemptAll (loc.attemptAll d l).2 l').1,
        (loc.attemptAll (loc.attemptAll d l).2 l').2) := by
  induction l generalizing d with
  | nil => rfl
  | cons p l ih => simp only [List.cons_append, attemptAll_cons, ih]

theorem positions_attemptAll (l : List Position) :
    (loc.attemptAll d l).1.map Outcome.position = l := by
  induction l generalizing d with
  | nil => rfl
  | cons p l ih => rw [attemptAll_cons, List.map_cons, ih]

theorem raises_attemptAll (hd : d.NewlineFree) (l : List Position) :
    d.Raises (loc.attemptAll d l).2 := by
  induction l generalizing d with
  | nil => exact .refl d
  | cons p l ih =>
    have hp : d.Raises (loc.attempt d p).2 := raises_attempt hd
    exact hp.trans (ih (hp.newlineFree hd))

/-- Each fix is one difference, and the differences add up. -/
theorem differences_attemptAll (hd : d.NewlineFree) (l : List Position) :
    differences d.chars (loc.attemptAll d l).2.chars =
      (loc.attemptAll d l).1.countP Outcome.isFixed := by
  induction l generalizing d with
  | nil => exact differences_self d.chars
  | cons p l ih =>
    have hp : d.Raises (loc.attempt d p).2 := raises_attempt hd
    have hrest := raises_attemptAll loc (hp.newlineFree hd) l
    rw [attemptAll_cons, differences_trans hp.chars hrest.chars, ih (hp.newlineFree hd),
      List.countP_cons, Nat.add_comm]
    congr 1
    by_cases hf : loc.Fixes d p
    · rw [attempt_of_fixes hd hf, Document.differences_raise hf.lower]
      rfl
    · have hs : ¬ Outcome.isFixed ⟨p, (loc.attempt d p).1⟩ = true :=
        mt Outcome.isFixed_iff.1 (mt (statusOf_eq_fixed hd).1 hf)
      rw [(attempt_of_not_fixes hf).1, differences_self, if_neg hs]

/-- The attempts before it leave the status of a position as it is. -/
theorem statuses_attemptAll (hd : d.NewlineFree) (hl : l.Nodup) :
    FixReport.statuses ⟨(loc.attemptAll d l).1⟩ = l.map fun p => (p, loc.statusOf d p) := by
  induction l generalizing d with
  | nil => rfl
  | cons p l ih =>
    obtain ⟨hpl, hl⟩ := List.nodup_cons.1 hl
    have hp : d.Raises (loc.attempt d p).2 := raises_attempt hd
    have hrest := ih (hp.newlineFree hd) hl
    simp only [FixReport.statuses] at hrest ⊢
    rw [attemptAll_cons, List.map_cons, List.map_cons, hrest]
    congr 1
    refine List.map_congr_left fun q hq => ?_
    have hqp : q ≠ p := fun e => hpl (e ▸ hq)
    rw [statusOf_of_raises hd hp (at?_attempt_ne hd hqp)]

/-- The document after a run: the positions that can be fixed on their own are raised. -/
theorem document_attemptAll (hd : d.NewlineFree) (hl : l.Nodup) :
    (loc.attemptAll d l).2 =
      (l.filter fun p => loc.statusOf d p = .fixed).foldl Document.raise d := by
  induction l generalizing d with
  | nil => rfl
  | cons p l ih =>
    obtain ⟨hpl, hl⟩ := List.nodup_cons.1 hl
    have hp : d.Raises (loc.attempt d p).2 := raises_attempt hd
    have hfilter : (l.filter fun q => loc.statusOf (loc.attempt d p).2 q = .fixed) =
        l.filter fun q => loc.statusOf d q = .fixed := by
      refine List.filter_congr fun q hq => ?_
      have hqp : q ≠ p := fun e => hpl (e ▸ hq)
      rw [statusOf_of_raises hd hp (at?_attempt_ne hd hqp)]
    rw [attemptAll_cons, ih (hp.newlineFree hd) hl, hfilter]
    by_cases hf : loc.Fixes d p
    · rw [List.filter_cons_of_pos (by simpa using (statusOf_eq_fixed hd).2 hf), List.foldl_cons,
        attempt_of_fixes hd hf]
    · rw [List.filter_cons_of_neg (by simpa using mt (statusOf_eq_fixed hd).1 hf),
        (attempt_of_not_fixes hf).1]

theorem document_attemptAll_perm (hd : d.NewlineFree) (hl : l.Nodup) (h : l.Perm l') :
    (loc.attemptAll d l').2 = (loc.attemptAll d l).2 := by
  rw [document_attemptAll loc hd hl, document_attemptAll loc hd (h.nodup hl)]
  exact ((h.filter _).foldl_eq' (fun p _ q _ d => d.raise_comm p q) d).symm

/-! ## Batches -/

theorem fix?_eq_some {ps : PositionSet} (hps : ps.isEmpty = false) :
    loc.fix? d ps = some (⟨(loc.attemptAll d ps.toList).1⟩, (loc.attemptAll d ps.toList).2) := by
  simp [fix?, hps]

theorem describes_attemptAll (hd : d.NewlineFree) (hl : l.Nodup) :
    FixReport.Describes ⟨(loc.attemptAll d l).1⟩ d (loc.attemptAll d l).2 := by
  have hr := raises_attemptAll loc hd l
  have hfixes : ∀ p, FixReport.Fixes ⟨(loc.attemptAll d l).1⟩ p ↔
      p ∈ l.filter fun p => loc.statusOf d p = .fixed := by
    intro p
    rw [FixReport.fixes_iff, statuses_attemptAll loc hd hl]
    simp [eq_comm]
  have hat := fun p => Document.at?_foldl_raise (l.filter fun p => loc.statusOf d p = .fixed) d p
  rw [← document_attemptAll loc hd hl] at hat
  refine ⟨hr.lineCount_eq.symm, fun i => (hr.ending?_eq i).symm, fun i => (hr.length_line? i).symm,
    fun p hp => ?_, fun p hp => ?_, differences_attemptAll loc hd l, hr.utf8ByteSize_render.symm⟩
  · rw [hfixes] at hp
    have hf : loc.Fixes d p := by
      rw [← statusOf_eq_fixed hd]
      simpa using (List.mem_filter.1 hp).2
    rw [hat, if_pos hp, hf.lower]
    exact ⟨rfl, rfl⟩
  · rw [hat, if_neg (mt (hfixes p).2 hp)]

end Locator

/-! ## What batches do -/

/-- **A batch changes exactly what it reports.** The document may be any one without newlines inside
its lines, as those of a text are, and the tokens of the locator need not be the document's. -/
theorem Locator.fix?_describes :
    (∀ text, (Document.parse text).NewlineFree) ∧
      ∀ (loc : Locator) (d : Document) (ps : PositionSet), d.NewlineFree → ps.isEmpty = false →
        ∃ r d', loc.fix? d ps = some (r, d') ∧
          r.outcomes.map Outcome.position = ps.toList ∧ ps.toList.Pairwise (· < ·) ∧
          r.Describes d d' := by
  refine ⟨Document.newlineFree_parse, fun loc d ps hd hps => ?_⟩
  exact ⟨_, _, fix?_eq_some loc hps, positions_attemptAll loc ps.toList, ps.sorted,
    describes_attemptAll loc hd ps.nodup⟩

/-- Two literals side by side, and tokens of which some are out of date, run backwards or reach over the
line. -/
def Sample.document : Document :=
  .ofLines ["x = 12l3l;".toList, "y = 4l".toList]

def Sample.tokens : List Literal :=
  [⟨.decimal, "12l".toList, ⟨.mk 1 5, .mk 1 8⟩⟩,
    ⟨.decimal, "2l3l".toList, ⟨.mk 1 6, .mk 1 10⟩⟩,
    ⟨.decimal, "99l".toList, ⟨.mk 1 7, .mk 1 10⟩⟩,
    ⟨.decimal, "4l".toList, ⟨.mk 2 9, .mk 2 7⟩⟩,
    ⟨.decimal, "4l".toList, ⟨.mk 1 5, .mk 2 7⟩⟩]

/-- Both letters of the first line. -/
def Sample.letters : PositionSet := .ofList [.mk 1 7, .mk 1 9]

def Sample.positions : PositionSet := .ofList [.mk 2 6, .mk 1 9, .mk 1 7, .mk 3 1, .mk 1 6]

theorem Locator.fix?_describes_sample :
    Sample.document.NewlineFree ∧ Sample.positions.isEmpty = false ∧
      ∃ r d', (Locator.range Sample.tokens).fix? Sample.document Sample.positions = some (r, d') ∧
        r.outcomes.map Outcome.position = Sample.positions.toList ∧
        Sample.positions.toList.Pairwise (· < ·) ∧ r.Describes Sample.document d' :=
  ⟨by decide, by decide, fix?_describes.2 _ Sample.document Sample.positions (by decide) (by decide)⟩

/-- **Positions commute.** In any order each position has the status that it has alone on the
document as it was, and the document ends up the same; so two batches do what one does. -/
theorem Locator.attemptAll_order_free (loc : Locator) (d : Document) (hd : d.NewlineFree) :
    (∀ l l' : List Position, l.Nodup → l.Perm l' →
      (loc.attemptAll d l').2 = (loc.attemptAll d l).2 ∧
        FixReport.statuses ⟨(loc.attemptAll d l').1⟩ = l'.map fun p => (p, loc.statusOf d p)) ∧
      ∀ ps as bs : PositionSet, as.isEmpty = false → bs.isEmpty = false →
        (∀ p, p ∈ ps ↔ p ∈ as ∨ p ∈ bs) → (∀ p, p ∈ as → p ∉ bs) →
        ∃ r d' ra da rb, loc.fix? d ps = some (r, d') ∧ loc.fix? d as = some (ra, da) ∧
          loc.fix? da bs = some (rb, d') ∧ r.statuses.Perm (ra.statuses ++ rb.statuses) := by
  refine ⟨fun l l' hl h => ⟨document_attemptAll_perm loc hd hl h,
    statuses_attemptAll loc hd (h.nodup hl)⟩, ?_⟩
  intro ps as bs has hbs hsplit hdisj
  have hnodup : (as.toList ++ bs.toList).Nodup :=
    List.nodup_append.2 ⟨as.nodup, bs.nodup, fun p hp q hq e => hdisj p hp (e ▸ hq)⟩
  have hperm : ps.toList.Perm (as.toList ++ bs.toList) := by
    refine (List.perm_ext_iff_of_nodup ps.nodup hnodup).2 fun p => ?_
    rw [List.mem_append]
    exact hsplit p
  have hps : ps.isEmpty = false := by
    obtain ⟨p, hp⟩ := List.exists_mem_of_ne_nil as.toList (by simpa [PositionSet.isEmpty] using has)
    have : p ∈ ps.toList := (hsplit p).2 (.inl hp)
    simpa [PositionSet.isEmpty] using List.ne_nil_of_mem this
  refine ⟨_, _, _, _, _, fix?_eq_some loc hps, fix?_eq_some loc has,
    (fix?_eq_some loc hbs).trans (congrArg some (Prod.ext rfl ?_)), ?_⟩
  · rw [← document_attemptAll_perm loc hd ps.nodup hperm, attemptAll_append]
  · have happ := statuses_attemptAll loc hd hnodup
    rw [attemptAll_append, FixReport.statuses, List.map_append] at happ
    rw [statuses_attemptAll loc hd ps.nodup]
    exact (hperm.map _).trans (.of_eq happ.symm)

theorem Locator.attemptAll_order_free_sample :
    Sample.document.NewlineFree ∧
      (Locator.coordinate.attemptAll Sample.document [.mk 1 9, .mk 1 7]).2 =
        (Locator.coordinate.attemptAll Sample.document [.mk 1 7, .mk 1 9]).2 ∧
      ∃ r d' ra da rb,
        Locator.coordinate.fix? Sample.document Sample.letters = some (r, d') ∧
          Locator.coordinate.fix? Sample.document (.ofList [.mk 1 9]) = some (ra, da) ∧
          Locator.coordinate.fix? da (.ofList [.mk 1 7]) = some (rb, d') ∧
          r.statuses.Perm (ra.statuses ++ rb.statuses) := by
  have hd : Sample.document.NewlineFree := by decide
  obtain ⟨hlist, hset⟩ := attemptAll_order_free .coordinate Sample.document hd
  refine ⟨hd, (hlist _ _ (by decide) (.swap _ _ _)).1, hset _ _ _ (by decide) (by decide) ?_ ?_⟩
  · intro p
    simp only [Sample.letters, PositionSet.mem_ofList, List.mem_cons, List.not_mem_nil, or_false]
    exact or_comm
  · intro p
    simp only [PositionSet.mem_ofList, List.mem_cons, List.not_mem_nil, or_false]
    rintro rfl
    decide

end LongSuffix
