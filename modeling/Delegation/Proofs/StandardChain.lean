import Delegation.Proofs.Building
import Delegation.Proofs.Nesting
import Delegation.Proofs.Preference
import Delegation.Proofs.Specificity

/-!
# Choices of the standard chain

Nobody is preferred to the candidate that the standard chain chooses.  Its
criteria do not combine to an order, however: one may rank a first candidate
over a second, another the second over a third, and none the first over the
third.  So the chosen candidate is preferred to every other one unless no
criterion tells the two apart, and then a third one is preferred to the other.
Where preference is transitive on the candidates, this does not happen.
-/

namespace Delegation

theorem Resolver.Undirected.swapsAt {resolver : Resolver Criterion}
    (hresolver : resolver.Undirected) {source : Method} {left right : Candidate}
    (hleft : left.InRange) (hright : right.InRange) (h : left.Discernible source right) :
    (resolver.comparison Criterion.comparison).SwapsAt source left right := by
  obtain ⟨verdict, hverdict⟩ := resolver.answers_of_inRange hright hleft source
  have hswap : (resolver.comparison Criterion.comparison source left right).outcome =
      .ok verdict.swap := by
    rw [resolver.outcome_swap, hverdict]
    · rfl
    · intro leaf hleaf
      refine leaf.outcome_swap ?_ hleft hright h
      rintro side rfl
      exact hresolver side hleaf
  exact Comparison.SwapsAt.symm ⟨verdict, hverdict, hswap⟩

/-! ## The standard chain -/

theorem Comparison.preferGreater_ne_unknown {Key : Type} [LT Key] [DecidableLT Key]
    (left right : Key) : preferGreater left right ≠ .unknown := by
  unfold preferGreater
  split
  · decide
  · split <;> decide

theorem Comparison.settleInTurn_concat_ne_unknown {start last verdict : Verdict}
    {outcomes : List (Except MissingParameter Verdict)} (hlast : last ≠ .unknown)
    (h : settleInTurn start (outcomes ++ [.ok last]) = .ok verdict) : verdict ≠ .unknown := by
  rw [settleInTurn_append] at h
  cases hnext : settleInTurn start outcomes with
  | error missing =>
      rw [hnext] at h
      cases h
  | ok next =>
      rw [hnext] at h
      change settleInTurn next [.ok last] = .ok verdict at h
      cases hdecided : next.isDecided with
      | true =>
          rw [settleInTurn_of_decided hdecided] at h
          cases h
          rintro rfl
          cases hdecided
      | false =>
          rw [settleInTurn_singleton hdecided] at h
          cases h
          exact hlast

namespace Chain

/-- The comparison of the standard chain. -/
def standardComparison : Comparison := standard.resolver.comparison Criterion.comparison

/-- No criterion of the standard chain prefers one of the two candidates. -/
def Indistinct (source : Method) (left right : Candidate) : Prop :=
  ∀ criterion ∈ standard.resolver.leaves, ∀ side,
    (criterion.comparison source left right).outcome ≠ .ok (.favouring side)

theorem undirected_standard : standard.resolver.Undirected := by
  intro side
  simp [standard]

/-- The last criterion, that of arity, never answers that nothing is known. -/
theorem standardComparison_ne_unknown (source : Method) (left right : Candidate) :
    (standardComparison source left right).outcome ≠ .ok .unknown := by
  intro hunknown
  have hturn : (standardComparison source left right).outcome =
      Comparison.settleInTurn .unknown
        ([Criterion.priority, .owner, .argumentTypes, .name].map (fun criterion =>
            (criterion.comparison source left right).outcome) ++
          [.ok (Comparison.preferGreater left.target.arity right.target.arity)]) :=
    Resolver.outcome_chain Criterion.comparison standard.members source left right
  rw [hturn] at hunknown
  exact Comparison.settleInTurn_concat_ne_unknown
    (Comparison.preferGreater_ne_unknown left.target.arity right.target.arity) hunknown rfl

theorem indistinct_of_ambiguous {source : Method} {left right : Candidate}
    (hleft : left.InRange) (hright : right.InRange)
    (h : standardComparison.verdict source left right = .ambiguous) :
    Indistinct source left right := by
  have hanswers : ∀ leaf ∈ standard.resolver.leaves, leaf.comparison.Answers source left right :=
    fun leaf _ => leaf.answers hleft hright source
  have hside := standard.resolver.side?_verdict hanswers
  rw [← standardComparison, h, eq_comm, Verdict.side?, List.findSome?_eq_none_iff] at hside
  intro criterion hcriterion side hdecided
  have hnone := hside criterion hcriterion
  rw [Comparison.verdict, hdecided] at hnone
  cases side <;> cases hnone

section

variable {types : ClassType → Prop} (htypes : ClassType.Coherent types) (source : Method)
  {bindings : List Binding} (hbuilt : ∀ binding ∈ bindings, binding.Built)
  (hwithin : ∀ binding ∈ bindings, binding.target.Within types)

include htypes hbuilt hwithin

theorem standardComparison_swapsAt :
    ∀ left ∈ bindings.map Binding.candidate, ∀ right ∈ bindings.map Binding.candidate,
      standardComparison.SwapsAt source left right := by
  intro left hleft right hright
  have hinRange := Binding.inRange_of_built hbuilt
  refine undirected_standard.swapsAt (hinRange left hleft) (hinRange right hright) ?_
  obtain ⟨leftBinding, hleftMem, rfl⟩ := List.mem_map.mp hleft
  obtain ⟨rightBinding, hrightMem, rfl⟩ := List.mem_map.mp hright
  exact htypes.discernible (hwithin leftBinding hleftMem) (hwithin rightBinding hrightMem) source

/--
The chosen candidate is preferred to every other one, unless no criterion tells them apart and a
third one is preferred to the other.  Where preference is transitive, it is preferred to all.
-/
theorem standard_choice_preferred_or_indistinct (htwo : 2 ≤ bindings.length) {choice : Choice}
    (hchoice : (choose standardComparison source (bindings.map Binding.candidate)).outcome =
      .ok (.ok choice)) :
    (∀ other rival, other ≠ choice.position →
      (bindings.map Binding.candidate)[other]? = some rival →
      (standardComparison source choice.candidate rival).outcome = .ok .left ∨
      ((standardComparison source choice.candidate rival).outcome = .ok .ambiguous ∧
        Indistinct source choice.candidate rival ∧
        ∃ third stronger, third ≠ choice.position ∧ third ≠ other ∧
          (bindings.map Binding.candidate)[third]? = some stronger ∧
          (standardComparison source stronger rival).outcome = .ok .left)) ∧
    (IsTrans Nat (Choice.Beats (standardComparison.verdict source)
        (bindings.map Binding.candidate)) →
      choice.Preferred standardComparison source (bindings.map Binding.candidate)) := by
  have hinRange := Binding.inRange_of_built hbuilt
  have hswaps := standardComparison_swapsAt htypes source hbuilt hwithin
  have hanswers : ∀ left ∈ bindings.map Binding.candidate,
      ∀ right ∈ bindings.map Binding.candidate, standardComparison.Answers source left right :=
    fun left hleft right hright => ⟨_, (hswaps left hleft right hright).outcome_eq⟩
  obtain ⟨hchosen, hsole⟩ := (outcome_choose_eq_ok_iff hanswers (by simpa using htwo)).mp hchoice
  constructor
  · intro other rival hne hrival
    have hchosenMem := List.mem_of_getElem? hchosen
    have hrivalMem := List.mem_of_getElem? hrival
    have hpair := hswaps _ hchosenMem _ hrivalMem
    have houtcome := hpair.outcome_eq
    cases hverdict : standardComparison.verdict source choice.candidate rival with
    | left => exact .inl (Comparison.verdict_eq_left_iff.mp hverdict)
    | right =>
        exact absurd hverdict
          (Choice.verdict_ne_right_of_sole hchosen hsole hne hrival hpair)
    | unknown =>
        rw [hverdict] at houtcome
        exact absurd houtcome (standardComparison_ne_unknown source _ _)
    | ambiguous =>
        rw [hverdict] at houtcome
        have hindistinct := indistinct_of_ambiguous (hinRange _ hchosenMem)
          (hinRange _ hrivalMem) hverdict
        exact .inr ⟨houtcome, hindistinct,
          Choice.exists_stronger_of_sole hchosen hsole hne hrival (by simp [hverdict])⟩
  · intro htrans
    exact Choice.preferred_of_beats hchosen fun other hlt hne =>
      Choice.beats_of_sole hsole htrans hlt hne

end

/-! ## Three handlers -/

def handler (owner : ClassType) (kind : Primitive) : Binding :=
  .identity { owner := owner, name := "handle", parameters := [.primitive kind] }

/--
The first handler overrides the second, which takes a more specific argument than the third; the
owners of the first and the third are unrelated and their arguments are the same.
-/
def handlers : List Binding :=
  [handler .number .int, handler .serializable .byte, handler .comparable .int]

theorem built_handlers : ∀ binding ∈ handlers, binding.Built := by
  intro binding hbinding
  simp only [handlers, List.mem_cons, List.not_mem_nil, or_false] at hbinding
  rcases hbinding with rfl | rfl | rfl <;> exact Binding.built_identity _

theorem within_handlers : ∀ binding ∈ handlers,
    binding.target.Within
      (· ∈ [.root, .comparable, .serializable, .number, .integer]) := by
  intro binding hbinding
  simp only [handlers, List.mem_cons, List.not_mem_nil, or_false] at hbinding
  rcases hbinding with rfl | rfl | rfl <;>
    exact ⟨by simp [handler, Binding.identity],
      by simp [handler, Binding.identity, ParamType.Within]⟩

theorem choose_handlers :
    (choose standardComparison (handler .root .byte).target
      (handlers.map Binding.candidate)).outcome =
      .ok (.ok ⟨0, (handler .number .int).candidate⟩) := rfl

theorem standard_choice_preferred_or_indistinct_handlers :
    (standardComparison (handler .root .byte).target (handler .number .int).candidate
        (handler .comparable .int).candidate).outcome = .ok .ambiguous ∧
      Indistinct (handler .root .byte).target (handler .number .int).candidate
        (handler .comparable .int).candidate := by
  have hspec := (standard_choice_preferred_or_indistinct ClassType.coherent_integer
    (handler .root .byte).target built_handlers within_handlers (by decide) choose_handlers).1
    2 (handler .comparable .int).candidate (by decide) rfl
  rcases hspec with hleft | ⟨htie, hindistinct, -⟩
  · cases hleft
  · exact ⟨htie, hindistinct⟩

/-- Of the three handlers the first is chosen, and yet not preferred to the third. -/
theorem standard_choice_not_always_preferred :
    ¬ ∀ (types : ClassType → Prop) (source : Method) (bindings : List Binding) (choice : Choice),
      ClassType.Coherent types →
      (∀ binding ∈ bindings, binding.Built) →
      (∀ binding ∈ bindings, binding.target.Within types) →
      (∀ left ∈ bindings, ∀ right ∈ bindings, ∀ position,
        (left.lookup position).isSome = (right.lookup position).isSome) →
      2 ≤ bindings.length →
      (choose standardComparison source (bindings.map Binding.candidate)).outcome =
        .ok (.ok choice) →
      choice.Preferred standardComparison source (bindings.map Binding.candidate) := by
  intro hclaim
  have hsame : ∀ left ∈ handlers, ∀ right ∈ handlers, ∀ position,
      (left.lookup position).isSome = (right.lookup position).isSome := by
    simp [handlers, handler, Binding.identity, Binding.lookup, Method.arity]
  have hpreferred := hclaim _ _ handlers _ ClassType.coherent_integer built_handlers
    within_handlers hsame (by decide) choose_handlers
  have hleft := hpreferred.2 2 (handler .comparable .int).candidate (by decide) rfl
  have htie : (standardComparison (handler .root .byte).target (handler .number .int).candidate
      (handler .comparable .int).candidate).outcome = .ok .ambiguous := rfl
  rw [htie] at hleft
  cases hleft

end Chain

end Delegation
