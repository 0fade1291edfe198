import Delegation.Choice
import Delegation.Criterion
import Delegation.Proofs.Outcomes

/-!
# What runs observe

What is allowed at every single step of a run is all that its trail shows.  So
resolvers and choices, whatever chains they go through and wherever they stop,
ask the candidates only about positions at which the source has a parameter.
-/

namespace Delegation

namespace Inquiry

variable {α β : Type} {allowed : Observation → Prop}

def StaysWithin (allowed : Observation → Prop) (inquiry : Inquiry α) : Prop :=
  ∀ observation ∈ inquiry.trail, allowed observation

theorem mem_askedOf_iff {inquiry : Inquiry α} {side : Side} {position : Nat}
    {answer : Option Nat} :
    (position, answer) ∈ inquiry.askedOf side ↔
      .asked side position answer ∈ inquiry.trail := by
  simp only [askedOf, List.mem_filterMap]
  constructor
  · rintro ⟨observation, hmem, hasked⟩
    cases observation with
    | asked asked other reply =>
        by_cases hside : asked = side
        · simp only [hside, if_true, Option.some.injEq, Prod.mk.injEq] at hasked
          rwa [hside, hasked.1, hasked.2] at hmem
        · simp [hside] at hasked
    | readTarget read => cases hasked
    | logged entry => cases hasked
  · intro hmem
    exact ⟨_, hmem, if_pos rfl⟩

/-! ## Steps -/

theorem staysWithin_pure (value : α) : (pure value : Inquiry α).StaysWithin allowed := by
  simp [StaysWithin]

theorem staysWithin_readTarget {side : Side} {candidate : Candidate}
    (h : allowed (.readTarget side)) : (readTarget side candidate).StaysWithin allowed := by
  simpa [StaysWithin, readTarget] using h

theorem staysWithin_parameter (method : Method) (position : Nat) :
    (parameter method position).StaysWithin allowed := by
  simp [StaysWithin, parameter]

theorem staysWithin_log {entry : LogEntry} (h : allowed (.logged entry)) :
    (log entry).StaysWithin allowed := by
  simpa [StaysWithin, log] using h

/-! ## Runs -/

theorem StaysWithin.bind {first : Inquiry α} {next : α → Inquiry β}
    (hfirst : first.StaysWithin allowed) (hnext : ∀ value, (next value).StaysWithin allowed) :
    (first >>= next).StaysWithin allowed := by
  cases houtcome : first.outcome with
  | error missing =>
      rw [bind_eq_of_error houtcome]
      exact hfirst
  | ok value =>
      rw [bind_eq_of_ok houtcome]
      intro observation hmem
      rcases List.mem_append.mp hmem with hmem | hmem
      · exact hfirst observation hmem
      · exact hnext value observation hmem

theorem staysWithin_mapM {step : α → Inquiry β} (items : List α)
    (h : ∀ item ∈ items, (step item).StaysWithin allowed) :
    (items.mapM step).StaysWithin allowed := by
  induction items with
  | nil => exact staysWithin_pure []
  | cons item items ih =>
      have hitems := ih fun other hother => h other (by simp [hother])
      rw [List.mapM_cons]
      exact (h item (by simp)).bind fun _ => hitems.bind fun _ => staysWithin_pure _

end Inquiry

open Inquiry

/-! ## Questions about the source's parameters -/

/-- The observation, if it is a question at all, is one about a parameter of the source. -/
def Observation.Concerns (source : Method) : Observation → Prop
  | .asked _ position _ => position < source.arity
  | _ => True

def Observation.isQuestion : Observation → Bool
  | .asked _ _ _ => true
  | _ => false

theorem Observation.concerns_of_isQuestion_eq_false {observation : Observation}
    (h : observation.isQuestion = false) {source : Method} : observation.Concerns source := by
  cases observation with
  | asked side position answer => cases h
  | readTarget side => trivial
  | logged entry => trivial

namespace Comparison

variable {source : Method} {left right : Candidate}

/-- Both candidates are asked before anything can fail, and nothing is asked afterwards. -/
theorem exists_trail_comparePosition (left right : Candidate) (type : ParamType)
    (position : Nat) :
    ∃ rest, (comparePosition left right type position).trail =
        .asked .left position (left.route position) ::
          .asked .right position (right.route position) :: rest ∧
      ∀ observation ∈ rest, observation.isQuestion = false := by
  refine ⟨_, rfl, ?_⟩
  change StaysWithin (fun observation => observation.isQuestion = false) _
  dsimp only
  split
  · refine (staysWithin_readTarget (by rfl)).bind fun leftTarget => ?_
    refine (staysWithin_parameter _ _).bind fun leftType => ?_
    refine (staysWithin_readTarget (by rfl)).bind fun rightTarget => ?_
    refine (staysWithin_parameter _ _).bind fun rightType => ?_
    exact (staysWithin_log (by rfl)).bind fun _ => staysWithin_pure _
  · exact (staysWithin_log (by rfl)).bind fun _ => staysWithin_pure _

theorem staysWithin_comparePosition {position : Nat} (h : position < source.arity)
    (type : ParamType) :
    (comparePosition left right type position).StaysWithin (Observation.Concerns source) := by
  obtain ⟨rest, htrail, hrest⟩ := exists_trail_comparePosition left right type position
  intro observation hmem
  rw [htrail, List.mem_cons, List.mem_cons] at hmem
  rcases hmem with rfl | rfl | hmem
  · exact h
  · exact h
  · exact Observation.concerns_of_isQuestion_eq_false (hrest observation hmem)

theorem staysWithin_argumentTypes :
    (argumentTypes source left right).StaysWithin (Observation.Concerns source) := by
  refine StaysWithin.bind (staysWithin_mapM _ ?_) fun _ => staysWithin_pure _
  rintro ⟨type, position⟩ hmem
  exact staysWithin_comparePosition (Method.lt_arity_of_mem_zipIdx hmem) type

theorem staysWithin_ofTargets (weigh : Method → Method → Method → Verdict) :
    (ofTargets weigh source left right).StaysWithin (Observation.Concerns source) := by
  refine (staysWithin_readTarget trivial).bind fun _ => ?_
  exact (staysWithin_readTarget trivial).bind fun _ => staysWithin_pure _

end Comparison

theorem Criterion.staysWithin (criterion : Criterion) {source : Method} {left right : Candidate} :
    (criterion.comparison source left right).StaysWithin (Observation.Concerns source) := by
  cases criterion with
  | priority => exact Comparison.staysWithin_ofTargets _
  | owner => exact Comparison.staysWithin_ofTargets _
  | argumentTypes => exact Comparison.staysWithin_argumentTypes
  | name => exact Comparison.staysWithin_ofTargets _
  | arity => exact Comparison.staysWithin_ofTargets _
  | favour side => exact staysWithin_pure _
  | abstain => exact staysWithin_pure _

/-! ## Resolvers and choices -/

section

variable {allowed : Observation → Prop} (hlogged : ∀ entry, allowed (.logged entry))

theorem Comparison.staysWithin_askInTurn {comparisons : List Comparison} {source : Method}
    {left right : Candidate}
    (h : ∀ comparison ∈ comparisons, (comparison source left right).StaysWithin allowed)
    (verdict : Verdict) :
    (askInTurn source left right verdict comparisons).StaysWithin allowed := by
  induction comparisons generalizing verdict with
  | nil => exact staysWithin_pure verdict
  | cons comparison comparisons ih =>
      rw [askInTurn]
      split
      · exact staysWithin_pure verdict
      · exact (h comparison (by simp)).bind (ih fun other hother => h other (by simp [hother]))

theorem Choice.staysWithin_isBeaten {compare : Candidate → Candidate → Inquiry Verdict}
    (h : ∀ left right, (compare left right).StaysWithin allowed) (candidate : Candidate)
    (rivals : List Candidate) : (isBeaten compare candidate rivals).StaysWithin allowed := by
  induction rivals with
  | nil => exact staysWithin_pure false
  | cons rival rivals ih =>
      refine (h rival candidate).bind fun verdict => ?_
      split
      · exact staysWithin_pure true
      · exact ih

theorem Choice.staysWithin_keepUnbeaten {compare : Candidate → Candidate → Inquiry Verdict}
    (h : ∀ left right, (compare left right).StaysWithin allowed) (candidates : List Candidate)
    (others : List (Candidate × Nat)) :
    (keepUnbeaten compare candidates others).StaysWithin allowed := by
  induction others with
  | nil => exact staysWithin_pure []
  | cons other others ih =>
      exact (staysWithin_isBeaten h other.1 _).bind fun _ => ih.bind fun _ => staysWithin_pure _

include hlogged

theorem Resolver.staysWithin {Leaf : Type} {interpret : Leaf → Comparison} {source : Method}
    {left right : Candidate} (resolver : Resolver Leaf)
    (h : ∀ leaf ∈ resolver.leaves, (interpret leaf source left right).StaysWithin allowed) :
    (resolver.comparison interpret source left right).StaysWithin allowed := by
  induction resolver with
  | single leaf => exact h leaf (by simp [leaves])
  | chain members ih =>
      have hmembers : ∀ comparison ∈ members.map (Resolver.comparison interpret),
          (comparison source left right).StaysWithin allowed := by
        intro comparison hcomparison
        obtain ⟨member, hmember, rfl⟩ := List.mem_map.mp hcomparison
        exact ih member hmember fun leaf hleaf =>
          h leaf (mem_leaves_chain.mpr ⟨member, hmember, hleaf⟩)
      rw [comparison, comparisons_eq_map]
      exact (Comparison.staysWithin_askInTurn hmembers .unknown).bind fun _ =>
        (staysWithin_log (hlogged _)).bind fun _ => staysWithin_pure _

theorem staysWithin_choose {comparison : Comparison} {source : Method}
    (h : ∀ left right, (comparison source left right).StaysWithin allowed)
    (candidates : List Candidate) :
    (choose comparison source candidates).StaysWithin allowed := by
  unfold choose
  split
  · exact staysWithin_pure _
  · exact staysWithin_pure _
  · exact (Choice.staysWithin_keepUnbeaten h _ _).bind fun _ =>
      (staysWithin_log (hlogged _)).bind fun _ => staysWithin_pure _

end

end Delegation
