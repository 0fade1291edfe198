import Delegation.Proofs.Nesting
import Delegation.Proofs.Preference
import Delegation.Proofs.SharedPositions
import Delegation.Proofs.Specificity

/-!
# Rankings

Priority, name and arity rank targets by a number, and abstaining ranks them all
alike.  Where such criteria leave a tie the next one is asked, so the numbers
are compared lexicographically.  A last criterion that compares types is a
strict partial order on candidates over a coherent set that route the same
parameters of the source, and put behind rankings it stays one.  Preferences
then run in no circle, and some candidate is unbeaten.
-/

namespace Delegation

namespace Criterion

/-- The number by which the criterion ranks a target for a source, if it goes by one. -/
def rank? : Criterion → Option (Method → Method → Int)
  | .priority => some fun _ target => target.priority
  | .name => some fun source target => if target.name == source.name then 1 else 0
  | .arity => some fun _ target => target.arity
  | .abstain => some fun _ _ => 0
  | .owner | .argumentTypes | .favour _ => none

/-- The first of the criteria to prefer a side prefers the left one. -/
def PreferLeft (criteria : List Criterion) (source : Method) (left right : Candidate) : Prop :=
  criteria.findSome? (fun criterion => (criterion.comparison.verdict source left right).side?) =
    some .left

/-! ## Ranking criteria -/

theorem side?_verdict_of_rank? {criterion : Criterion} {rank : Method → Method → Int}
    (h : criterion.rank? = some rank) (source : Method) (left right : Candidate) :
    (criterion.comparison.verdict source left right).side? =
      (Comparison.preferGreater (rank source left.target) (rank source right.target)).side? := by
  cases criterion with
  | priority =>
      cases h
      rfl
  | name =>
      cases h
      change (Comparison.preferGreater (left.target.name == source.name)
          (right.target.name == source.name)).side? =
        (Comparison.preferGreater (if left.target.name == source.name then (1 : Int) else 0)
          (if right.target.name == source.name then 1 else 0)).side?
      cases left.target.name == source.name <;> cases right.target.name == source.name <;> decide
  | arity =>
      cases h
      change (Comparison.preferGreater left.target.arity right.target.arity).side? = _
      simp only [Comparison.preferGreater, Int.ofNat_lt]
  | abstain =>
      cases h
      rfl
  | owner => cases h
  | argumentTypes => cases h
  | favour side => cases h

variable {source : Method} {first second third : Candidate} {others : List Criterion}

theorem preferLeft_cons_iff {criterion : Criterion} {rank : Method → Method → Int}
    (h : criterion.rank? = some rank) :
    PreferLeft (criterion :: others) source first second ↔
      rank source second.target < rank source first.target ∨
        rank source first.target = rank source second.target ∧
          PreferLeft others source first second := by
  rw [PreferLeft, List.findSome?_cons, side?_verdict_of_rank? h, Comparison.preferGreater]
  rcases lt_trichotomy (rank source first.target) (rank source second.target) with
    hlt | heq | hgt
  · have hnot : ¬ rank source second.target < rank source first.target := by omega
    simp [hlt, hnot, hlt.ne, Verdict.side?]
  · simp [heq, Verdict.side?, PreferLeft]
  · simp [hgt, Verdict.side?]

theorem preferLeft_singleton_iff {criterion : Criterion} :
    PreferLeft [criterion] source first second ↔
      criterion.comparison.verdict source first second = .left := by
  rw [PreferLeft, List.findSome?_singleton, Verdict.side?_eq_some_iff]
  rfl

/-! ## Rankings in front of other criteria -/

theorem preferLeft_trans_of_ranked {stages : List Criterion}
    (hstages : ∀ criterion ∈ stages, criterion.rank?.isSome)
    (hothers : PreferLeft others source first second → PreferLeft others source second third →
      PreferLeft others source first third) :
    PreferLeft (stages ++ others) source first second →
      PreferLeft (stages ++ others) source second third →
        PreferLeft (stages ++ others) source first third := by
  induction stages with
  | nil => exact hothers
  | cons criterion stages ih =>
      obtain ⟨rank, hrank⟩ := Option.isSome_iff_exists.mp (hstages criterion (by simp))
      have hrest := ih fun later hlater => hstages later (by simp [hlater])
      simp only [List.cons_append, preferLeft_cons_iff hrank]
      rintro (hlower | ⟨hsame, hlower⟩) (hupper | ⟨hsame', hupper⟩)
      · exact .inl (by omega)
      · exact .inl (by omega)
      · exact .inl (by omega)
      · exact .inr ⟨hsame.trans hsame', hrest hlower hupper⟩

end Criterion

/-! ## Criteria that compare types -/

theorem ParamType.compare_self (source type : ParamType) :
    compare source type type = .ambiguous := by
  apply compare_of_beq
  cases type with
  | primitive kind => exact beq_self_eq_true kind
  | reference type => exact ClassType.beq_iff_name_eq.mpr rfl

theorem Comparison.outcome_argumentTypes_self {source : Method} {candidate : Candidate}
    (h : candidate.InRangeFor source) (side : Side) :
    (argumentTypes source candidate candidate).outcome ≠ .ok (.favouring side) := by
  rw [Ne, outcome_argumentTypes_eq_favouring_iff h h]
  rintro ⟨hne, hall⟩
  obtain ⟨position, hposition⟩ := List.exists_mem_of_ne_nil _ hne
  obtain ⟨type, leftType, rightType, -, hleft, hright, hcompare⟩ :=
    verdictAt?_eq_some_iff.mp (hall position hposition)
  cases hleft.symm.trans hright
  rw [ParamType.compare_self] at hcompare
  cases side <;> cases hcompare

/-- Of a candidate and itself only a criterion that favours a side prefers one. -/
theorem Criterion.side?_verdict_self {criterion : Criterion}
    (hundirected : ∀ side, criterion ≠ .favour side) {source : Method} {candidate : Candidate}
    (h : candidate.InRangeFor source) :
    (criterion.comparison.verdict source candidate candidate).side? = none := by
  cases hrank : criterion.rank? with
  | some rank =>
      rw [side?_verdict_of_rank? hrank]
      simp [Comparison.preferGreater, Verdict.side?]
  | none =>
      cases criterion with
      | owner =>
          have hsame : Comparison.weighOwners candidate.target.owner candidate.target.owner =
              .ambiguous := by
            rw [Comparison.weighOwners, if_pos (ClassType.beq_iff_name_eq.mpr rfl)]
          exact congrArg Verdict.side? hsame
      | argumentTypes =>
          rw [← Option.not_isSome_iff_eq_none, Option.isSome_iff_exists]
          rintro ⟨side, hside⟩
          refine Comparison.outcome_argumentTypes_self h side ?_
          have houtcome := (argumentTypes.answers_of_inRangeFor h h).outcome_eq
          rwa [Verdict.side?_eq_some_iff.mp hside] at houtcome
      | favour side => exact absurd rfl (hundirected side)
      | _ => cases hrank

/-- Candidates over the types of a set that route the same parameters of the source, in range. -/
structure Candidate.Aligned (candidates : List Candidate) (types : ClassType → Prop)
    (source : Method) : Prop where
  within : ∀ candidate ∈ candidates, candidate.target.Within types
  inRange : ∀ candidate ∈ candidates, candidate.InRangeFor source
  routes : ∀ left ∈ candidates, ∀ right ∈ candidates, ∀ position < source.arity,
    (left.route position).isSome = (right.route position).isSome

namespace Candidate.Aligned

variable {candidates : List Candidate} {types : ClassType → Prop} {source : Method}
  {first second third : Candidate}

theorem sharedPositions_eq (h : Aligned candidates types source) (hfirst : first ∈ candidates)
    (hsecond : second ∈ candidates) (hthird : third ∈ candidates) {fourth : Candidate}
    (hfourth : fourth ∈ candidates) :
    Comparison.sharedPositions source first second =
      Comparison.sharedPositions source third fourth := by
  unfold Comparison.sharedPositions
  refine List.filter_congr fun position hposition => ?_
  have hlt := List.mem_range.mp hposition
  rw [h.routes first hfirst third hthird position hlt,
    h.routes second hsecond fourth hfourth position hlt]

variable (h : Aligned candidates types source) (htypes : ClassType.Coherent types)

include h htypes

theorem owner_trans (hfirst : first ∈ candidates) (hsecond : second ∈ candidates)
    (hthird : third ∈ candidates)
    (hlower : Criterion.owner.comparison.verdict source first second = .left)
    (hupper : Criterion.owner.comparison.verdict source second third = .left) :
    Criterion.owner.comparison.verdict source first third = .left := by
  have howner : ∀ left ∈ candidates, ∀ right ∈ candidates,
      Criterion.owner.comparison.verdict source left right =
        ParamType.compareClasses left.target.owner right.target.owner :=
    fun left hleft right hright => Comparison.weighOwners_eq_compareClasses_iff.mpr
      (htypes.not_interchangeable (h.within left hleft).owner (h.within right hright).owner)
  rw [howner first hfirst second hsecond] at hlower
  rw [howner second hsecond third hthird] at hupper
  rw [howner first hfirst third hthird]
  exact ParamType.compareClasses_trans htypes (h.within first hfirst).owner
    (h.within second hsecond).owner (h.within third hthird).owner hlower hupper

theorem argumentTypes_trans (hfirst : first ∈ candidates) (hsecond : second ∈ candidates)
    (hthird : third ∈ candidates)
    (hlower : (Comparison.argumentTypes source first second).outcome = .ok .left)
    (hupper : (Comparison.argumentTypes source second third).outcome = .ok .left) :
    (Comparison.argumentTypes source first third).outcome = .ok .left := by
  have hprefers : ∀ left ∈ candidates, ∀ right ∈ candidates,
      (Comparison.argumentTypes source left right).outcome = .ok .left ↔
        Comparison.sharedPositions source first third ≠ [] ∧
          ∀ position ∈ Comparison.sharedPositions source first third,
            Comparison.verdictAt? source left right position = some .left := by
    intro left hleft right hright
    rw [← h.sharedPositions_eq hleft hright hfirst hthird]
    exact Comparison.outcome_argumentTypes_eq_favouring_iff (h.inRange left hleft)
      (h.inRange right hright) .left
  rw [hprefers first hfirst second hsecond] at hlower
  rw [hprefers second hsecond third hthird] at hupper
  rw [hprefers first hfirst third hthird]
  refine ⟨hlower.1, fun position hposition => ?_⟩
  obtain ⟨type, firstType, secondType, htype, hfirstType, hsecondType, hcompare⟩ :=
    Comparison.verdictAt?_eq_some_iff.mp (hlower.2 position hposition)
  obtain ⟨type', secondType', thirdType, htype', hsecondType', hthirdType, hcompare'⟩ :=
    Comparison.verdictAt?_eq_some_iff.mp (hupper.2 position hposition)
  cases htype.symm.trans htype'
  cases hsecondType.symm.trans hsecondType'
  refine Comparison.verdictAt?_eq_some_iff.mpr
    ⟨type, firstType, thirdType, htype, hfirstType, hthirdType, ?_⟩
  exact ParamType.compare_trans htypes type
    ((h.within first hfirst).parameters _ (mem_parameters_of_typeAt? hfirstType))
    ((h.within second hsecond).parameters _ (mem_parameters_of_typeAt? hsecondType))
    ((h.within third hthird).parameters _ (mem_parameters_of_typeAt? hthirdType))
    hcompare hcompare'

end Candidate.Aligned

/-! ## Rankings in front of types -/

namespace Resolver

variable {resolver : Resolver Criterion} {source : Method} {left right : Candidate}

theorem verdict_eq_left_iff_preferLeft (hleft : left.InRangeFor source)
    (hright : right.InRangeFor source) :
    (resolver.comparison Criterion.comparison).verdict source left right = .left ↔
      Criterion.PreferLeft resolver.leaves source left right := by
  rw [Criterion.PreferLeft, ← resolver.side?_verdict fun leaf _ =>
    leaf.answers_of_inRangeFor hleft hright, Verdict.side?_eq_some_iff]
  rfl

section

variable {candidates : List Candidate} {types : ClassType → Prop} {stages : List Criterion}
  {last : Criterion}

theorem prefersAt_iff (h : ∀ candidate ∈ candidates, candidate.InRangeFor source)
    {first second : Nat} :
    Choice.PrefersAt (resolver.comparison Criterion.comparison) source candidates first second ↔
      ∃ left right, candidates[first]? = some left ∧ candidates[second]? = some right ∧
        Criterion.PreferLeft resolver.leaves source left right := by
  refine exists_congr fun left => exists_congr fun right => ?_
  refine and_congr_right fun hleft => and_congr_right fun hright => ?_
  rw [← Comparison.verdict_eq_left_iff, verdict_eq_left_iff_preferLeft
    (h left (List.mem_of_getElem? hleft)) (h right (List.mem_of_getElem? hright))]

variable (htypes : ClassType.Coherent types) (haligned : Candidate.Aligned candidates types source)
  (hleaves : resolver.leaves = stages ++ [last])
  (hstages : ∀ criterion ∈ stages, criterion.rank?.isSome)
  (hlast : last = .argumentTypes ∨ last = .owner)

include htypes haligned hleaves hstages hlast

theorem prefersAt_strictOrder :
    IsStrictOrder Nat
      (Choice.PrefersAt (resolver.comparison Criterion.comparison) source candidates) where
  irrefl := by
    intro position hself
    obtain ⟨left, right, hleft, hright, hprefer⟩ := (prefersAt_iff haligned.inRange).mp hself
    cases hleft.symm.trans hright
    have hrange := haligned.inRange left (List.mem_of_getElem? hleft)
    have hnone : ∀ criterion ∈ resolver.leaves,
        (criterion.comparison.verdict source left left).side? = none := by
      intro criterion hcriterion
      refine Criterion.side?_verdict_self ?_ hrange
      rintro side rfl
      rw [hleaves, List.mem_append, List.mem_singleton] at hcriterion
      rcases hcriterion with hstage | rfl
      · cases hstages _ hstage
      · rcases hlast with hlast | hlast <;> cases hlast
    rw [Criterion.PreferLeft, List.findSome?_eq_none_iff.mpr hnone] at hprefer
    cases hprefer
  trans := by
    intro first second third hlower hupper
    rw [prefersAt_iff haligned.inRange] at hlower hupper ⊢
    obtain ⟨left, middle, hleft, hmiddle, hlower⟩ := hlower
    obtain ⟨middle', right, hmiddle', hright, hupper⟩ := hupper
    cases hmiddle.symm.trans hmiddle'
    refine ⟨left, right, hleft, hright, ?_⟩
    rw [hleaves] at hlower hupper ⊢
    refine Criterion.preferLeft_trans_of_ranked hstages ?_ hlower hupper
    simp only [Criterion.preferLeft_singleton_iff]
    have hleftMem := List.mem_of_getElem? hleft
    have hmiddleMem := List.mem_of_getElem? hmiddle
    have hrightMem := List.mem_of_getElem? hright
    rcases hlast with rfl | rfl
    · simp only [Comparison.verdict_eq_left_iff]
      exact haligned.argumentTypes_trans htypes hleftMem hmiddleMem hrightMem
    · exact haligned.owner_trans htypes hleftMem hmiddleMem hrightMem

/--
Preference is a strict partial order on the candidates, so one of them is unbeaten.  The run
of a choice therefore keeps at least one candidate and settles on those it keeps.
-/
theorem choose_keeps_unbeaten (hne : candidates ≠ []) :
    IsStrictOrder Nat
      (Choice.PrefersAt (resolver.comparison Criterion.comparison) source candidates) ∧
    (∃ position < candidates.length, ¬ Choice.Beaten
      ((resolver.comparison Criterion.comparison).verdict source) candidates position) ∧
    ∃ kept, kept ≠ [] ∧
      (Choice.keepUnbeaten (resolver.comparison Criterion.comparison source) candidates
        candidates.zipIdx).outcome = .ok kept ∧
      (choose (resolver.comparison Criterion.comparison) source candidates).outcome =
        .ok (Choice.settle source candidates kept) := by
  have hstrict := prefersAt_strictOrder htypes haligned hleaves hstages hlast
  have htrans := Choice.isTrans_beats_of_prefersAt hstrict
  have hanswers : ∀ left ∈ candidates, ∀ right ∈ candidates,
      (resolver.comparison Criterion.comparison).Answers source left right :=
    fun left hleft right hright => resolver.answers_of_leaves fun leaf _ =>
      leaf.answers_of_inRangeFor (haligned.inRange left hleft) (haligned.inRange right hright)
  refine ⟨hstrict, Choice.exists_unbeaten htrans hne, _, Choice.unbeaten_ne_nil htrans hne, ?_, ?_⟩
  · exact outcome_keepUnbeaten
      (fun left hleft right hright => (hanswers left hleft right hright).outcome_eq) _
      fun other hother => List.fst_mem_of_mem_zipIdx hother
  · rw [outcome_choose_of_answers hanswers, Choice.chooseBy_of_ne_nil _ source hne]

end

def taking (type : ParamType) : Candidate :=
  (Binding.identity { owner := .root, name := "take", parameters := [type] }).candidate

def takers : List Candidate :=
  [taking (.reference .number), taking (.reference .integer), taking (.reference .serializable)]

def stagedResolver : Resolver Criterion :=
  .chain [.single .priority, .chain [.single .abstain, .chain [], .single .name],
    .chain [.single .argumentTypes]]

theorem aligned_takers :
    Candidate.Aligned takers (· ∈ [.root, .comparable, .serializable, .number, .integer])
      (taking (.reference .integer)).target where
  within := by
    intro candidate hcandidate
    simp only [takers, List.mem_cons, List.not_mem_nil, or_false] at hcandidate
    rcases hcandidate with rfl | rfl | rfl <;>
      exact ⟨by simp [taking, Binding.identity, Binding.candidate],
        by simp [taking, Binding.identity, Binding.candidate, ParamType.Within]⟩
  inRange := by
    intro candidate hcandidate
    simp only [takers, List.mem_cons, List.not_mem_nil, or_false] at hcandidate
    rcases hcandidate with rfl | rfl | rfl <;> exact (Binding.inRange_identity _).inRangeFor _
  routes := by
    intro left hleft right hright position _
    simp only [takers, List.mem_cons, List.not_mem_nil, or_false] at hleft hright
    rcases hleft with rfl | rfl | rfl <;> rcases hright with rfl | rfl | rfl <;> rfl

theorem choose_keeps_unbeaten_takers :
    stagedResolver.leaves = [.priority, .abstain, .name] ++ [.argumentTypes] ∧
      Candidate.Aligned takers (· ∈ [.root, .comparable, .serializable, .number, .integer])
        (taking (.reference .integer)).target ∧
      ∃ position < takers.length, ¬ Choice.Beaten
        ((stagedResolver.comparison Criterion.comparison).verdict
          (taking (.reference .integer)).target) takers position := by
  have hleaves : stagedResolver.leaves = [.priority, .abstain, .name] ++ [.argumentTypes] := rfl
  have hspec := choose_keeps_unbeaten ClassType.coherent_integer aligned_takers hleaves
    (by decide) (.inl rfl) (by decide)
  exact ⟨hleaves, aligned_takers, hspec.2.1⟩

end Resolver

end Delegation
