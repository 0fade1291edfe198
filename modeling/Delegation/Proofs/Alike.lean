import Delegation.Proofs.Rankings

/-!
# Candidates that are alike

A comparison sees of a candidate its target and where it routes the parameters
of the source.  Two candidates that agree in this are preferred to the same
others, and to each other only by a criterion that favours a side.  Without one
such a pair is beaten by the same rivals, so neither of the two is ever the only
unbeaten candidate.
-/

namespace Delegation

/-! ## Candidates of one target and the same routes -/

/-- Candidates of one target that route the parameters of the source alike. -/
structure Candidate.AlikeFor (source : Method) (left right : Candidate) : Prop where
  target : left.target = right.target
  routes : ∀ position < source.arity, left.route position = right.route position

namespace Candidate.AlikeFor

variable {source : Method} {left right : Candidate}

theorem refl (source : Method) (candidate : Candidate) : AlikeFor source candidate candidate :=
  ⟨rfl, fun _ _ => rfl⟩

theorem symm (h : AlikeFor source left right) : AlikeFor source right left :=
  ⟨h.target.symm, fun position hposition => (h.routes position hposition).symm⟩

theorem inRangeFor (h : AlikeFor source left right) (hleft : left.InRangeFor source) :
    right.InRangeFor source := by
  intro position hposition target hroute
  rw [← h.routes position hposition] at hroute
  rw [← h.target]
  exact hleft position hposition target hroute

end Candidate.AlikeFor

/-! ## Runs on candidates that are alike -/

section

variable {source : Method} {left right otherLeft otherRight : Candidate}
  (hleft : Candidate.AlikeFor source left otherLeft)
  (hright : Candidate.AlikeFor source right otherRight)

include hleft hright

theorem Comparison.outcome_argumentTypes_congr :
    (argumentTypes source left right).outcome =
      (argumentTypes source otherLeft otherRight).outcome := by
  have hpositions : (source.parameters.zipIdx.mapM fun (type, position) =>
      comparePosition left right type position).outcome =
      (source.parameters.zipIdx.mapM fun (type, position) =>
        comparePosition otherLeft otherRight type position).outcome := by
    apply Inquiry.outcome_mapM_congr
    rintro ⟨type, position⟩ hmem
    have hposition := Method.lt_arity_of_mem_zipIdx hmem
    simp only [outcome_comparePosition, hleft.routes position hposition,
      hright.routes position hposition, hleft.target, hright.target]
  simp only [argumentTypes, Inquiry.outcome_bind, hpositions]

theorem Criterion.outcome_congr (criterion : Criterion) :
    (criterion.comparison source left right).outcome =
      (criterion.comparison source otherLeft otherRight).outcome := by
  have htargets (weigh : Method → Method → Method → Verdict) :
      (Comparison.ofTargets weigh source left right).outcome =
        (Comparison.ofTargets weigh source otherLeft otherRight).outcome := by
    change Except.ok (weigh source left.target right.target) =
      Except.ok (weigh source otherLeft.target otherRight.target)
    rw [hleft.target, hright.target]
  cases criterion with
  | priority => exact htargets _
  | owner => exact htargets _
  | argumentTypes => exact Comparison.outcome_argumentTypes_congr hleft hright
  | name => exact htargets _
  | arity => exact htargets _
  | favour side => rfl
  | abstain => rfl

theorem Resolver.side?_verdict_congr (resolver : Resolver Criterion) :
    ((resolver.comparison Criterion.comparison).verdict source left right).side? =
      ((resolver.comparison Criterion.comparison).verdict source otherLeft otherRight).side? := by
  have hleaves : resolver.leafOutcomes Criterion.comparison source left right =
      resolver.leafOutcomes Criterion.comparison source otherLeft otherRight :=
    List.map_congr_left fun leaf _ => leaf.outcome_congr hleft hright
  have hsides : (resolver.comparison Criterion.comparison source left right).outcome.map
      Verdict.side? =
        (resolver.comparison Criterion.comparison source otherLeft otherRight).outcome.map
          Verdict.side? := by
    have hunknown : Verdict.unknown.isDecided = false := rfl
    rw [resolver.map_side?_outcome hunknown, resolver.map_side?_outcome hunknown, hleaves]
  unfold Comparison.verdict
  rcases Inquiry.outcomes_of_map_eq hsides with
    ⟨missing, hone, htwo⟩ | ⟨one, two, hone, htwo, hside⟩
  · rw [hone, htwo]
  · rw [hone, htwo]
    exact hside

end

/-! ## Preference between candidates that are alike -/

namespace Resolver.Undirected

variable {resolver : Resolver Criterion} (hresolver : resolver.Undirected) {source : Method}
  {left right : Candidate} (halike : Candidate.AlikeFor source left right)
  (hleft : left.InRangeFor source)

include hresolver halike hleft

theorem side?_verdict_of_alike :
    ((resolver.comparison Criterion.comparison).verdict source left right).side? = none := by
  rw [resolver.side?_verdict_congr (.refl source left) halike.symm, resolver.side?_verdict]
  · rw [List.findSome?_eq_none_iff]
    intro leaf hleaf
    refine leaf.side?_verdict_self ?_ hleft
    rintro side rfl
    exact hresolver side hleaf
  · exact fun leaf _ => leaf.answers_of_inRangeFor hleft hleft

theorem undecided_of_alike :
    ∃ verdict, (resolver.comparison Criterion.comparison source left right).outcome =
      .ok verdict ∧ verdict.isDecided = false := by
  have hanswers : (resolver.comparison Criterion.comparison).Answers source left right :=
    resolver.answers_of_leaves fun leaf _ =>
      leaf.answers_of_inRangeFor hleft (halike.inRangeFor hleft)
  exact ⟨_, hanswers.outcome_eq,
    Verdict.side?_eq_none_iff.mp (hresolver.side?_verdict_of_alike halike hleft)⟩

end Resolver.Undirected

/-! ## Choices between candidates that are alike -/

namespace Choice

variable {candidates : List Candidate} {first second : Nat} {left right : Candidate}

/-- A rival of the one is a rival of the other, unless it is the other one itself. -/
theorem beaten_of_same_rivals {verdict : Candidate → Candidate → Verdict}
    (hleft : candidates[first]? = some left) (hright : candidates[second]? = some right)
    (hrivals : ∀ rival, verdict rival left = .left → verdict rival right = .left)
    (hnot : verdict right left ≠ .left) (hbeaten : Beaten verdict candidates first) :
    Beaten verdict candidates second := by
  obtain ⟨other, rival, -, hrival, hbeats⟩ := (beaten_iff hleft).mp hbeaten
  refine (beaten_iff hright).mpr ⟨other, rival, ?_, hrival, hrivals rival hbeats⟩
  rintro rfl
  cases hright.symm.trans hrival
  exact hnot hbeats

theorem beaten_iff_of_alike {resolver : Resolver Criterion} (hresolver : resolver.Undirected)
    {source : Method} (hleft : candidates[first]? = some left)
    (hright : candidates[second]? = some right) (halike : Candidate.AlikeFor source left right)
    (hinRange : left.InRangeFor source) :
    Beaten ((resolver.comparison Criterion.comparison).verdict source) candidates first ↔
      Beaten ((resolver.comparison Criterion.comparison).verdict source) candidates second := by
  have hrivals : ∀ rival,
      (resolver.comparison Criterion.comparison).verdict source rival left = .left ↔
        (resolver.comparison Criterion.comparison).verdict source rival right = .left := by
    intro rival
    rw [← Verdict.favouring, ← Verdict.side?_eq_some_iff, ← Verdict.side?_eq_some_iff,
      resolver.side?_verdict_congr (.refl source rival) halike]
  have hforth := hresolver.side?_verdict_of_alike halike hinRange
  have hback := hresolver.side?_verdict_of_alike halike.symm (halike.inRangeFor hinRange)
  constructor
  · refine beaten_of_same_rivals hleft hright (fun rival => (hrivals rival).mp) fun hbeats => ?_
    simp [hbeats, Verdict.side?] at hback
  · refine beaten_of_same_rivals hright hleft (fun rival => (hrivals rival).mpr) fun hbeats => ?_
    simp [hbeats, Verdict.side?] at hforth

theorem mem_unbeatenPositions_iff_of_alike {resolver : Resolver Criterion}
    (hresolver : resolver.Undirected) {source : Method} (hleft : candidates[first]? = some left)
    (hright : candidates[second]? = some right) (halike : Candidate.AlikeFor source left right)
    (hinRange : left.InRangeFor source) :
    first ∈ unbeatenPositions ((resolver.comparison Criterion.comparison).verdict source)
        candidates ↔
      second ∈ unbeatenPositions ((resolver.comparison Criterion.comparison).verdict source)
        candidates := by
  have hfirst := (List.getElem?_eq_some_iff.mp hleft).1
  have hsecond := (List.getElem?_eq_some_iff.mp hright).1
  rw [mem_unbeatenPositions, mem_unbeatenPositions,
    beaten_iff_of_alike hresolver hleft hright halike hinRange]
  simp [hfirst, hsecond]

end Choice

open Choice

/--
Without a favoured side, candidates that are alike are never preferred to each other.  So where
both are candidates, neither is chosen, and both are among the unbeaten ones or neither is.
-/
theorem Resolver.Undirected.choose_of_alike {resolver : Resolver Criterion}
    (hresolver : resolver.Undirected) (source : Method) :
    (∀ left right, Candidate.AlikeFor source left right → left.InRangeFor source →
      ∃ verdict, (resolver.comparison Criterion.comparison source left right).outcome =
        .ok verdict ∧ verdict.isDecided = false) ∧
    (∀ candidates, (∀ candidate ∈ candidates, candidate.InRangeFor source) →
      ∀ first second left right, first ≠ second → candidates[first]? = some left →
        candidates[second]? = some right → Candidate.AlikeFor source left right →
          ∃ answer, (choose (resolver.comparison Criterion.comparison) source
              candidates).outcome = .ok answer ∧
            (∀ choice, answer = .ok choice →
              choice.position ≠ first ∧ choice.position ≠ second) ∧
            (∀ targets, answer = .error (.ambiguous source targets) →
              targets = targetsAt candidates (reportedPositions
                ((resolver.comparison Criterion.comparison).verdict source) candidates)) ∧
            (first ∈ unbeatenPositions
                ((resolver.comparison Criterion.comparison).verdict source) candidates ↔
              second ∈ unbeatenPositions
                ((resolver.comparison Criterion.comparison).verdict source) candidates)) := by
  refine ⟨fun left right halike hleft => hresolver.undecided_of_alike halike hleft, ?_⟩
  intro candidates hinRange first second left right hne hleft hright halike
  have hboth := mem_unbeatenPositions_iff_of_alike hresolver hleft hright halike
    (hinRange left (List.mem_of_getElem? hleft))
  have hanswers : ∀ left ∈ candidates, ∀ right ∈ candidates,
      (resolver.comparison Criterion.comparison).Answers source left right :=
    fun left hleft right hright => resolver.answers_of_leaves fun leaf _ =>
      leaf.answers_of_inRangeFor (hinRange left hleft) (hinRange right hright)
  refine ⟨_, outcome_choose_of_answers hanswers, ?_, ?_, hboth⟩
  · intro choice hchoice
    obtain ⟨-, hsole⟩ := chooseBy_eq_ok_iff.mp hchoice
    rw [hsole, List.mem_singleton, List.mem_singleton] at hboth
    constructor
    · intro hposition
      exact hne (hposition.symm.trans (hboth.mp hposition.symm).symm)
    · intro hposition
      exact hne ((hboth.mpr hposition.symm).trans hposition)
  · intro targets htargets
    exact (chooseBy_eq_ambiguous_iff.mp htargets).2.2

/-- Routes as those of `crossing` but for one from a position that `receiving` does not have. -/
def Comparison.recrossing : Candidate :=
  (Binding.mk Comparison.crossing.target [(1, 0), (0, 1)]).candidate

theorem choose_of_alike_crossing :
    nestedResolver.Undirected ∧
      Candidate.AlikeFor Comparison.receiving Comparison.crossing Comparison.recrossing ∧
      ∃ answer, (choose (nestedResolver.comparison Criterion.comparison) Comparison.receiving
          [Comparison.crossing, Comparison.converging, Comparison.recrossing]).outcome =
            .ok answer ∧
        ∀ choice, answer = .ok choice → choice.position ≠ 0 ∧ choice.position ≠ 2 := by
  have hundirected : nestedResolver.Undirected := by
    intro side
    simp [nestedResolver, Resolver.leaves, Resolver.leavesOfAll]
  have halike : Candidate.AlikeFor Comparison.receiving Comparison.crossing
      Comparison.recrossing := ⟨rfl, by decide⟩
  have hinRange : ∀ candidate ∈
      [Comparison.crossing, Comparison.converging, Comparison.recrossing],
      candidate.InRangeFor Comparison.receiving := by decide
  obtain ⟨answer, hanswer, hchosen, -⟩ := (hundirected.choose_of_alike Comparison.receiving).2 _
    hinRange 0 2 _ _ (by decide) rfl rfl halike
  exact ⟨hundirected, halike, answer, hanswer, hchosen⟩

end Delegation
