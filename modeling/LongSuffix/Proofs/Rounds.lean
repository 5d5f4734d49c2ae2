import LongSuffix.Proofs.Batch
import Mathlib.Algebra.GroupWithZero.Nat

/-!
# Rounds of batches

Several batches on one document, each with a locator and positions of its own. Whatever the
tokens are that the locators bring along, a letter is raised once and stays so, and a position that a
locator has dealt with is settled for it: tried again at any later time it is not fixed
(`fixRounds?_settles`).
-/

namespace LongSuffix

namespace Locator

variable {loc : Locator} {d d' : Document} {ps : PositionSet} {r : FixReport}

/-! ## After one batch -/

theorem eq_of_fix? (h : loc.fix? d ps = some (r, d')) :
    r = ⟨(loc.attemptAll d ps.toList).1⟩ ∧ d' = (loc.attemptAll d ps.toList).2 := by
  unfold fix? at h
  split at h
  · cases h
  · cases h; exact ⟨rfl, rfl⟩

theorem raises_fix? (hd : d.NewlineFree) (h : loc.fix? d ps = some (r, d')) : d.Raises d' := by
  obtain ⟨-, rfl⟩ := eq_of_fix? h
  exact raises_attemptAll loc hd ps.toList

theorem describes_fix? (hd : d.NewlineFree) (h : loc.fix? d ps = some (r, d')) :
    r.Describes d d' := by
  obtain ⟨rfl, rfl⟩ := eq_of_fix? h
  exact describes_attemptAll loc hd ps.nodup

/-- Nothing is left to fix at the positions of a batch. -/
theorem not_fixes_fix? (hd : d.NewlineFree) (h : loc.fix? d ps = some (r, d')) {p : Position}
    (hp : p ∈ ps) : ¬ loc.Fixes d' p := by
  intro hf
  have hfixed : r.Fixes p := by
    obtain ⟨rfl, -⟩ := eq_of_fix? h
    rw [FixReport.fixes_iff, statuses_attemptAll loc hd ps.nodup, List.mem_map]
    exact ⟨p, hp, by rw [(statusOf_eq_fixed hd).2 (hf.of_raises (raises_fix? hd h))]⟩
  have hupper := ((describes_fix? hd h).raised p hfixed).2
  rw [hf.lower] at hupper
  cases hupper

theorem fix?_of_not_fixes (hd : d.NewlineFree) (hps : ps.isEmpty = false)
    (h : ∀ p ∈ ps, ¬ loc.Fixes d p) : ∃ r, loc.fix? d ps = some (r, d) ∧ r.fixedCount = 0 := by
  have hdoc : (loc.attemptAll d ps.toList).2 = d := by
    rw [document_attemptAll loc hd ps.nodup, List.filter_eq_nil_iff.2, List.foldl_nil]
    intro p hp
    simpa using mt (statusOf_eq_fixed hd).1 (h p hp)
  have hfix := fix?_eq_some (d := d) loc hps
  rw [hdoc] at hfix
  refine ⟨_, hfix, ?_⟩
  rw [← (describes_fix? hd hfix).count, differences_self]

end Locator

/-! ## Runs of rounds -/

structure Round where
  locator : Locator
  positions : PositionSet

/-- Runs the rounds one after the other; none if one of them has no positions. -/
def fixRounds? (d : Document) : List Round → Option (List FixReport × Document)
  | [] => some ([], d)
  | round :: rest => do
    let (report, d') ← round.locator.fix? d round.positions
    let (reports, d'') ← fixRounds? d' rest
    return (report :: reports, d'')

section

variable {d d' d'' : Document} {round : Round} {rounds : List Round} {r : FixReport}
  {reports : List FixReport}

theorem fixRounds?_cons (h : round.locator.fix? d round.positions = some (r, d'))
    (hrest : fixRounds? d' rounds = some (reports, d'')) :
    fixRounds? d (round :: rounds) = some (r :: reports, d'') := by
  simp [fixRounds?, h, hrest]

theorem of_fixRounds?_cons (h : fixRounds? d (round :: rounds) = some (reports, d'')) :
    ∃ r d' rest, round.locator.fix? d round.positions = some (r, d') ∧
      fixRounds? d' rounds = some (rest, d'') ∧ reports = r :: rest := by
  simp only [fixRounds?, Option.bind_eq_bind, Option.bind_eq_some_iff] at h
  obtain ⟨⟨r, d'⟩, hr, ⟨rest, e⟩, hrest, heq⟩ := h
  cases heq
  exact ⟨r, d', rest, hr, hrest, rfl⟩

theorem exists_fixRounds? (d : Document)
    (hne : ∀ round ∈ rounds, round.positions.isEmpty = false) :
    ∃ reports d', fixRounds? d rounds = some (reports, d') := by
  induction rounds generalizing d with
  | nil => exact ⟨_, _, rfl⟩
  | cons round rounds ih =>
    have hr := Locator.fix?_eq_some (d := d) round.locator (hne round List.mem_cons_self)
    obtain ⟨reports, d'', hrest⟩ := ih _ fun other hm => hne other (List.mem_cons_of_mem _ hm)
    exact ⟨_, _, fixRounds?_cons hr hrest⟩

theorem raises_fixRounds? (hd : d.NewlineFree) (h : fixRounds? d rounds = some (reports, d')) :
    d.Raises d' := by
  induction rounds generalizing d reports with
  | nil => cases h; exact .refl _
  | cons round rounds ih =>
    obtain ⟨r, e, rest, hr, hrest, -⟩ := of_fixRounds?_cons h
    have hde := Locator.raises_fix? hd hr
    exact hde.trans (ih (hde.newlineFree hd) hrest)

/-- What a round fixes was lower case from the start. -/
theorem lower_of_fixRounds? (hd : d.NewlineFree) (h : fixRounds? d rounds = some (reports, d'))
    (hr : r ∈ reports) {p : Position} (hp : r.Fixes p) : d.at? p = some 'l' := by
  induction rounds generalizing d reports with
  | nil => cases h; cases hr
  | cons round rounds ih =>
    obtain ⟨r', e, rest, hr', hrest, rfl⟩ := of_fixRounds?_cons h
    rcases List.mem_cons.1 hr with rfl | hr
    · exact ((Locator.describes_fix? hd hr').raised p hp).1
    · have hde := Locator.raises_fix? hd hr'
      exact hde.at?_lower (ih (hde.newlineFree hd) hrest hr)

theorem pairwise_fixRounds? (hd : d.NewlineFree) (h : fixRounds? d rounds = some (reports, d')) :
    reports.Pairwise fun r r' => ∀ p, r.Fixes p → ¬ r'.Fixes p := by
  induction rounds generalizing d reports with
  | nil => cases h; exact .nil
  | cons round rounds ih =>
    obtain ⟨r, e, rest, hr, hrest, rfl⟩ := of_fixRounds?_cons h
    have he := (Locator.raises_fix? hd hr).newlineFree hd
    refine .cons (fun r' hr' p hp hp' => ?_) (ih he hrest)
    have hlower := lower_of_fixRounds? he hrest hr' hp'
    rw [((Locator.describes_fix? hd hr).raised p hp).2] at hlower
    cases hlower

theorem differences_fixRounds? (hd : d.NewlineFree)
    (h : fixRounds? d rounds = some (reports, d')) :
    (reports.map FixReport.fixedCount).sum = differences d.chars d'.chars := by
  induction rounds generalizing d reports with
  | nil => cases h; simp
  | cons round rounds ih =>
    obtain ⟨r, e, rest, hr, hrest, rfl⟩ := of_fixRounds?_cons h
    have hde := Locator.raises_fix? hd hr
    have he := hde.newlineFree hd
    rw [List.map_cons, List.sum_cons, ih he hrest, ← (Locator.describes_fix? hd hr).count,
      differences_trans hde.chars (raises_fixRounds? he hrest).chars]

theorem not_fixes_fixRounds? (hd : d.NewlineFree) (h : fixRounds? d rounds = some (reports, d'))
    (hr : round ∈ rounds) {p : Position} (hp : p ∈ round.positions) :
    ¬ round.locator.Fixes d' p := by
  induction rounds generalizing d reports with
  | nil => cases hr
  | cons first rounds ih =>
    obtain ⟨r, e, rest, hfirst, hrest, -⟩ := of_fixRounds?_cons h
    have he := (Locator.raises_fix? hd hfirst).newlineFree hd
    rcases List.mem_cons.1 hr with rfl | hr
    · -- the rounds that follow raise letters, and that makes nothing fixable
      exact fun hf => Locator.not_fixes_fix? hd hfirst hp (hf.of_raises (raises_fixRounds? he hrest))
    · exact ih he hrest hr

end

/-- **Rounds fix nothing twice.** No position is fixed in two rounds, the fixes are the differences
between the first document and the last one, and at no point of the run has an earlier round anything
left to do. -/
theorem fixRounds?_settles (rounds : List Round) (d : Document) (hd : d.NewlineFree)
    (hne : ∀ round ∈ rounds, round.positions.isEmpty = false) :
    ∃ reports d', fixRounds? d rounds = some (reports, d') ∧
      (reports.Pairwise fun r r' => ∀ p, r.Fixes p → ¬ r'.Fixes p) ∧
      (reports.map FixReport.fixedCount).sum = differences d.chars d'.chars ∧
      List.Forall₂ Raised d.chars d'.chars ∧
      ∀ earlier later, rounds = earlier ++ later →
        ∃ reports e, fixRounds? d earlier = some (reports, e) ∧
          ∀ round ∈ earlier, ∀ ps : PositionSet, ps.isEmpty = false →
            (∀ p ∈ ps, p ∈ round.positions) →
            ∃ r, round.locator.fix? e ps = some (r, e) ∧ r.fixedCount = 0 := by
  obtain ⟨reports, d', h⟩ := exists_fixRounds? d hne
  refine ⟨reports, d', h, pairwise_fixRounds? hd h, differences_fixRounds? hd h,
    (raises_fixRounds? hd h).chars, ?_⟩
  rintro earlier later rfl
  obtain ⟨reports, e, he⟩ :=
    exists_fixRounds? d fun round hm => hne round (List.mem_append_left later hm)
  refine ⟨reports, e, he, fun round hround ps hps hsub => ?_⟩
  exact Locator.fix?_of_not_fixes ((raises_fixRounds? hd he).newlineFree hd) hps fun p hp =>
    not_fixes_fixRounds? hd he hround (hsub p hp)

/-- A round with tokens that were read before the first round, and a round that comes back. -/
def Sample.rounds : List Round :=
  [⟨.coordinate, letters⟩, ⟨.range tokens, positions⟩, ⟨.coordinate, positions⟩]

theorem fixRounds?_settles_sample :
    Sample.document.NewlineFree ∧ (∀ round ∈ Sample.rounds, round.positions.isEmpty = false) ∧
      ∃ reports d', fixRounds? Sample.document Sample.rounds = some (reports, d') ∧
        (reports.Pairwise fun r r' => ∀ p, r.Fixes p → ¬ r'.Fixes p) ∧
        (reports.map FixReport.fixedCount).sum = differences Sample.document.chars d'.chars ∧
        List.Forall₂ Raised Sample.document.chars d'.chars ∧
        ∀ earlier later, Sample.rounds = earlier ++ later →
          ∃ reports e, fixRounds? Sample.document earlier = some (reports, e) ∧
            ∀ round ∈ earlier, ∀ ps : PositionSet, ps.isEmpty = false →
              (∀ p ∈ ps, p ∈ round.positions) →
              ∃ r, round.locator.fix? e ps = some (r, e) ∧ r.fixedCount = 0 :=
  ⟨by decide, by decide, fixRounds?_settles Sample.rounds Sample.document (by decide) (by decide)⟩

end LongSuffix
