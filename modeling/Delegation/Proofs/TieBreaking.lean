import Delegation.Proofs.Nesting
import Delegation.Proofs.Preference

/-!
# Tie breakers

A side that is favoured at the end of a chain takes every pair that the chain
leaves undecided.  A choice only asks whether a rival on the left is preferred,
so the two sides do not act alike.  Favouring the right never makes a rival win
and changes no choice.  Favouring the left makes each of two tied candidates
beat the other, so a candidate is chosen only where the chain itself prefers it
to every other one.
-/

namespace Delegation

/-! ## Pairs -/

/-- An undecided verdict gives way to the side. -/
def Verdict.breakTie (side : Side) (verdict : Verdict) : Verdict :=
  if verdict.isDecided then verdict else favouring side

theorem Verdict.breakTie_right_beq_left (verdict : Verdict) :
    (verdict.breakTie .right == .left) = (verdict == .left) := by
  cases verdict <;> rfl

theorem Verdict.breakTie_left_eq_left_iff {verdict : Verdict} :
    verdict.breakTie .left = .left ↔ verdict ≠ .right := by
  cases verdict <;> decide

theorem Chain.outcome_add_favouring {Leaf : Type} {interpret : Leaf → Comparison}
    (chain : Chain Leaf) {leaf : Leaf} {side : Side}
    (hleaf : interpret leaf = .constant (.favouring side)) (source : Method)
    (left right : Candidate) :
    ((chain.add (.single leaf)).resolver.comparison interpret source left right).outcome =
      (chain.resolver.comparison interpret source left right).outcome.map
        (Verdict.breakTie side) := by
  have hsingle : ((Resolver.single leaf).comparison interpret source left right).outcome =
      .ok (.favouring side) := by
    rw [Resolver.comparison, hleaf]
    rfl
  rw [resolver, resolver, add, Resolver.outcome_chain, Resolver.outcome_chain, List.map_append,
    Comparison.settleInTurn_append, List.map_singleton, hsingle]
  cases Comparison.settleInTurn .unknown _ with
  | error missing => rfl
  | ok verdict => cases verdict <;> rfl

/-! ## Favouring the left -/

namespace Choice

section

variable {comparison : Comparison} {source : Method} {candidates : List Candidate}

/-- What a tie breaker to the left makes of the comparison. -/
def breakingTies (comparison : Comparison) (source : Method) (left right : Candidate) : Verdict :=
  (comparison.verdict source left right).breakTie .left

variable (h : candidates.Pairwise (comparison.SwapsAt source))

include h

theorem not_beaten_breakingTies_iff {position : Nat} {candidate : Candidate}
    (hcandidate : candidates[position]? = some candidate) :
    ¬ Beaten (breakingTies comparison source) candidates position ↔
      ∀ other rival, other ≠ position → candidates[other]? = some rival →
        (comparison source candidate rival).outcome = .ok .left := by
  rw [beaten_iff hcandidate]
  constructor
  · intro hunbeaten other rival hne hrival
    have hswaps := Comparison.SwapsAt.of_pairwise h hne hrival hcandidate
    have hright : comparison.verdict source rival candidate = .right := by
      by_contra hnot
      exact hunbeaten ⟨other, rival, hne, hrival, Verdict.breakTie_left_eq_left_iff.mpr hnot⟩
    exact Comparison.verdict_eq_left_iff.mp (hswaps.verdict_eq_right_iff.mp hright)
  · rintro hpreferred ⟨other, rival, hne, hrival, hbeats⟩
    have hswaps := Comparison.SwapsAt.of_pairwise h hne hrival hcandidate
    have hleft := Comparison.verdict_eq_left_iff.mpr (hpreferred other rival hne hrival)
    exact Verdict.breakTie_left_eq_left_iff.mp hbeats (hswaps.verdict_eq_right_iff.mpr hleft)

theorem unbeatenPositions_breakingTies_iff {choice : Choice}
    (hchoice : candidates[choice.position]? = some choice.candidate) :
    unbeatenPositions (breakingTies comparison source) candidates = [choice.position] ↔
      choice.Preferred comparison source candidates := by
  rw [unbeatenPositions_eq_singleton_iff]
  constructor
  · intro hsole
    exact ⟨hchoice, (not_beaten_breakingTies_iff h hchoice).mp ((hsole choice.position).mpr rfl).2⟩
  · rintro ⟨-, hpreferred⟩ other
    constructor
    · rintro ⟨hlt, hunbeaten⟩
      -- Two positions preferred to each other would both win the one comparison between them.
      by_contra hne
      have hother : candidates[other]? = some candidates[other] := List.getElem?_eq_getElem hlt
      have hswaps := Comparison.SwapsAt.of_pairwise h hne hother hchoice
      have hback := (not_beaten_breakingTies_iff h hother).mp hunbeaten choice.position
        choice.candidate (Ne.symm hne) hchoice
      have hleft := hpreferred other candidates[other] hne hother
      rw [← Comparison.verdict_eq_left_iff] at hback hleft
      rw [← hswaps.verdict_eq_right_iff, hback] at hleft
      cases hleft
    · rintro rfl
      exact ⟨(List.getElem?_eq_some_iff.mp hchoice).1,
        (not_beaten_breakingTies_iff h hchoice).mpr hpreferred⟩

theorem unbeaten_breakingTies_eq_nil
    (hnone : ∀ choice : Choice, ¬ choice.Preferred comparison source candidates) :
    unbeaten (breakingTies comparison source) candidates = [] := by
  have hpositions : unbeatenPositions (breakingTies comparison source) candidates = [] := by
    apply List.eq_nil_iff_forall_not_mem.mpr
    intro position hposition
    obtain ⟨hlt, hunbeaten⟩ := mem_unbeatenPositions.mp hposition
    have hcandidate : candidates[position]? = some candidates[position] :=
      List.getElem?_eq_getElem hlt
    exact hnone ⟨position, candidates[position]⟩
      ⟨hcandidate, (not_beaten_breakingTies_iff h hcandidate).mp hunbeaten⟩
  rwa [← map_position_unbeaten, List.map_eq_nil_iff] at hpositions

end

end Choice

open Choice

/-! ## Choices -/

namespace Chain

section

variable {Leaf : Type} {interpret : Leaf → Comparison} (chain : Chain Leaf) (source : Method)

theorem outcome_choose_add_right {toRight : Leaf}
    (hright : interpret toRight = .constant (.favouring .right)) (candidates : List Candidate) :
    (choose ((chain.add (.single toRight)).resolver.comparison interpret) source
        candidates).outcome =
      (choose (chain.resolver.comparison interpret) source candidates).outcome := by
  apply outcome_choose_congr_left
  intro position candidate _ rival _
  rw [chain.outcome_add_favouring hright]
  cases (chain.resolver.comparison interpret source rival candidate).outcome with
  | error missing => rfl
  | ok verdict => exact congrArg Except.ok verdict.breakTie_right_beq_left

theorem outcome_choose_add_left {toLeft : Leaf}
    (hleft : interpret toLeft = .constant (.favouring .left)) {candidates : List Candidate}
    (htwo : 2 ≤ candidates.length)
    (hswaps : candidates.Pairwise ((chain.resolver.comparison interpret).SwapsAt source)) :
    (choose ((chain.add (.single toLeft)).resolver.comparison interpret) source
        candidates).outcome =
      .ok (settle source candidates
        (unbeaten (breakingTies (chain.resolver.comparison interpret) source) candidates)) := by
  -- The plain verdicts need to agree with the chain's only where two positions meet.
  have hplain : (choose (fun source left right =>
      pure (breakingTies (chain.resolver.comparison interpret) source left right)) source
        candidates).outcome =
      .ok (chooseBy (breakingTies (chain.resolver.comparison interpret)) source candidates) :=
    outcome_choose fun _ _ _ _ => rfl
  rw [← chooseBy_of_two_le _ source htwo, ← hplain]
  apply outcome_choose_congr_left
  intro position candidate hcandidate rival hrival
  obtain ⟨other, hne, hother⟩ := List.mem_eraseIdx_iff_getElem?.mp hrival
  have hpair := Comparison.SwapsAt.of_pairwise hswaps hne hother hcandidate
  rw [chain.outcome_add_favouring hleft, hpair.outcome_eq]
  rfl

/--
A tie breaker to the right changes no choice.  With one to the left, a candidate is chosen
exactly if the chain itself prefers it to all others; else all candidates are reported.
-/
theorem outcome_choose_add_favouring {toLeft toRight : Leaf}
    (hleft : interpret toLeft = .constant (.favouring .left))
    (hright : interpret toRight = .constant (.favouring .right)) (candidates : List Candidate) :
    (choose ((chain.add (.single toRight)).resolver.comparison interpret) source
        candidates).outcome =
      (choose (chain.resolver.comparison interpret) source candidates).outcome ∧
    (2 ≤ candidates.length →
      candidates.Pairwise ((chain.resolver.comparison interpret).SwapsAt source) →
      (∀ choice : Choice,
        (choose ((chain.add (.single toLeft)).resolver.comparison interpret) source
            candidates).outcome = .ok (.ok choice) ↔
          choice.Preferred (chain.resolver.comparison interpret) source candidates) ∧
      ((∀ choice : Choice,
          ¬ choice.Preferred (chain.resolver.comparison interpret) source candidates) →
        (choose ((chain.add (.single toLeft)).resolver.comparison interpret) source
            candidates).outcome =
          .ok (.error (.ambiguous source (candidates.map Candidate.target))))) := by
  refine ⟨chain.outcome_choose_add_right source hright candidates, fun htwo hswaps => ?_⟩
  have hchoose := chain.outcome_choose_add_left source hleft htwo hswaps
  constructor
  · intro choice
    rw [hchoose, Except.ok.injEq, settle_eq_ok_iff, unbeaten_eq_singleton_iff]
    constructor
    · rintro ⟨hat, hsole⟩
      exact (unbeatenPositions_breakingTies_iff hswaps hat).mp hsole
    · intro hpreferred
      exact ⟨hpreferred.1,
        (unbeatenPositions_breakingTies_iff hswaps hpreferred.1).mpr hpreferred⟩
  · intro hnone
    rw [hchoose, unbeaten_breakingTies_eq_nil hswaps hnone, settle]

end

theorem outcome_choose_add_favouring_of_arity :
    (choose (((ofLeaves [Criterion.arity]).add
        (.single (.favour .left))).resolver.comparison Criterion.comparison) (ofArity 3).target
          [ofArity 1, ofArity 2, ofArity 0]).outcome = .ok (.ok ⟨1, ofArity 2⟩) ∧
      (choose (((ofLeaves [Criterion.arity]).add
        (.single (.favour .right))).resolver.comparison Criterion.comparison) (ofArity 3).target
          [ofArity 1, ofArity 2, ofArity 0]).outcome =
        (choose ((ofLeaves [Criterion.arity]).resolver.comparison Criterion.comparison)
          (ofArity 3).target [ofArity 1, ofArity 2, ofArity 0]).outcome := by
  have hleft : Criterion.comparison (.favour .left) = .constant (.favouring .left) := rfl
  have hright : Criterion.comparison (.favour .right) = .constant (.favouring .right) := rfl
  have hswaps : [ofArity 1, ofArity 2, ofArity 0].Pairwise
      (((ofLeaves [Criterion.arity]).resolver.comparison Criterion.comparison).SwapsAt
        (ofArity 3).target) := by
    simp only [List.pairwise_cons, List.mem_cons, List.not_mem_nil, or_false, forall_eq_or_imp,
      forall_eq, false_implies, implies_true, and_true, List.Pairwise.nil]
    exact ⟨⟨⟨.right, rfl, rfl⟩, ⟨.left, rfl, rfl⟩⟩, ⟨.left, rfl, rfl⟩⟩
  have hpreferred : Choice.Preferred ((ofLeaves [Criterion.arity]).resolver.comparison
      Criterion.comparison) (ofArity 3).target [ofArity 1, ofArity 2, ofArity 0]
        ⟨1, ofArity 2⟩ := by
    refine ⟨rfl, fun other rival hne hrival => ?_⟩
    match other, hne, hrival with
    | 0, _, rfl => rfl
    | 2, _, rfl => rfl
  have hspec := outcome_choose_add_favouring (ofLeaves [Criterion.arity]) (ofArity 3).target
    hleft hright [ofArity 1, ofArity 2, ofArity 0]
  exact ⟨((hspec.2 (by decide) hswaps).1 _).mpr hpreferred, hspec.1⟩

/-- Two candidates that tie beat each other with a tie breaker to the left. -/
example :
    (choose (((ofLeaves [Criterion.arity]).add
        (.single (.favour .left))).resolver.comparison Criterion.comparison) (ofArity 3).target
          [ofArity 2, ofArity 1, ofArity 2]).outcome =
      .ok (.error (.ambiguous (ofArity 3).target
        [(ofArity 2).target, (ofArity 1).target, (ofArity 2).target])) := rfl

end Chain

end Delegation
