import Delegation.Proofs.Outcomes

/-!
# Argument types, position by position

Of two candidates in range, the comparison of argument types is the join of
`ParamType.compare` over the source positions that both of them route, so it
always answers, and so does every criterion.
-/

namespace Delegation

/-! ## Positions of parameters -/

theorem Method.exists_parameter_of_lt {method : Method} {position : Nat}
    (h : position < method.arity) : ∃ type, method.parameter position = .ok type := by
  have hlt : position < method.parameters.length := h
  exact ⟨method.parameters[position], by simp [parameter, hlt]⟩

theorem Method.parameter_of_le {method : Method} {position : Nat} (h : method.arity ≤ position) :
    method.parameter position = .error ⟨position, method⟩ := by
  have hle : method.parameters.length ≤ position := h
  simp [parameter, hle]

theorem Method.map_snd_zipIdx_parameters (method : Method) :
    method.parameters.zipIdx.map Prod.snd = List.range method.arity := by
  rw [List.zipIdx_map_snd, List.range_eq_range', arity]

/-- The type of the target's parameter that the source position is routed to. -/
def Candidate.typeAt? (candidate : Candidate) (position : Nat) : Option ParamType :=
  (candidate.route position).bind fun target => candidate.target.parameters[target]?

/-- The routes that start from parameters of the source lead to parameters of the target. -/
def Candidate.InRangeFor (candidate : Candidate) (source : Method) : Prop :=
  ∀ position < source.arity, ∀ target, candidate.route position = some target →
    target < candidate.target.arity

theorem Candidate.InRange.inRangeFor {candidate : Candidate} (h : candidate.InRange)
    (source : Method) : candidate.InRangeFor source :=
  fun position _ => h position

theorem Candidate.InRangeFor.typeAt?_eq_some {candidate : Candidate} {source : Method}
    (h : candidate.InRangeFor source) {position target : Nat} (hposition : position < source.arity)
    (hroute : candidate.route position = some target) :
    ∃ type, candidate.target.parameter target = .ok type ∧
      candidate.typeAt? position = some type := by
  have hlt : target < candidate.target.parameters.length := h position hposition target hroute
  refine ⟨candidate.target.parameters[target], ?_, ?_⟩
  · simp [Method.parameter, hlt]
  · simp [typeAt?, hroute, hlt]

namespace Comparison

/-! ## One position -/

theorem outcome_comparePosition (left right : Candidate) (source : ParamType) (position : Nat) :
    (comparePosition left right source position).outcome =
      match left.route position, right.route position with
      | some leftTarget, some rightTarget => do
          let leftType ← left.target.parameter leftTarget
          let rightType ← right.target.parameter rightTarget
          .ok (ParamType.compare source leftType rightType)
      | _, _ => .ok .unknown := by
  simp only [comparePosition, Inquiry.outcome_bind, Inquiry.ask]
  cases left.route position with
  | none => rfl
  | some leftTarget =>
      cases right.route position with
      | none => rfl
      | some rightTarget =>
          change (Inquiry.outcome (_ >>= _)) = _
          simp only [Inquiry.outcome_bind, Inquiry.readTarget, Inquiry.parameter]
          rfl

def weighPosition (left right : Candidate) (source : ParamType) (position : Nat) :
    Option Verdict :=
  match left.typeAt? position, right.typeAt? position with
  | some leftType, some rightType => some (ParamType.compare source leftType rightType)
  | _, _ => none

theorem outcome_comparePosition_of_inRangeFor {source : Method} {left right : Candidate}
    (hleft : left.InRangeFor source) (hright : right.InRangeFor source) (type : ParamType)
    {position : Nat} (hposition : position < source.arity) :
    (comparePosition left right type position).outcome =
      .ok ((weighPosition left right type position).getD .unknown) := by
  rw [outcome_comparePosition]
  cases hleftRoute : left.route position with
  | none => simp [weighPosition, Candidate.typeAt?, hleftRoute]
  | some leftTarget =>
      obtain ⟨leftType, hleftType, hleftAt⟩ := hleft.typeAt?_eq_some hposition hleftRoute
      cases hrightRoute : right.route position with
      | none => simp [weighPosition, Candidate.typeAt?, hrightRoute]
      | some rightTarget =>
          obtain ⟨rightType, hrightType, hrightAt⟩ := hright.typeAt?_eq_some hposition hrightRoute
          simp only [weighPosition, hleftAt, hrightAt, hleftType, hrightType]
          rfl

/-! ## All positions -/

/-- The verdicts on the positions that both candidates route, in order. -/
def sharedVerdicts (source : Method) (left right : Candidate) : List Verdict :=
  source.parameters.zipIdx.filterMap fun (type, position) =>
    weighPosition left right type position

private theorem joinAll_map_getD {α : Type} (verdict : α → Option Verdict) (items : List α) :
    Verdict.joinAll (items.map fun item => (verdict item).getD .unknown) =
      Verdict.joinAll (items.filterMap verdict) := by
  induction items with
  | nil => rfl
  | cons item items ih =>
      rw [List.map_cons, Verdict.joinAll_cons, ih]
      cases h : verdict item <;> simp [h]

theorem outcome_argumentTypes_of_inRangeFor {source : Method} {left right : Candidate}
    (hleft : left.InRangeFor source) (hright : right.InRangeFor source) :
    (argumentTypes source left right).outcome =
      .ok (Verdict.joinAll (sharedVerdicts source left right)) := by
  have hpositions : (source.parameters.zipIdx.mapM fun (type, position) =>
      comparePosition left right type position).outcome =
      .ok (source.parameters.zipIdx.map fun (type, position) =>
        (weighPosition left right type position).getD .unknown) := by
    apply Inquiry.outcome_mapM_of_ok
    rintro ⟨type, position⟩ hmem
    have hposition := Method.lt_arity_of_mem_zipIdx hmem
    exact outcome_comparePosition_of_inRangeFor hleft hright type hposition
  rw [argumentTypes, Inquiry.bind_eq_of_ok hpositions]
  simp only [Inquiry.outcome_pure, sharedVerdicts, joinAll_map_getD]

theorem outcome_argumentTypes {left right : Candidate} (hleft : left.InRange)
    (hright : right.InRange) (source : Method) :
    (argumentTypes source left right).outcome =
      .ok (Verdict.joinAll (sharedVerdicts source left right)) :=
  outcome_argumentTypes_of_inRangeFor (hleft.inRangeFor source) (hright.inRangeFor source)

end Comparison

theorem Criterion.answers_of_inRangeFor (criterion : Criterion) {source : Method}
    {left right : Candidate} (hleft : left.InRangeFor source) (hright : right.InRangeFor source) :
    criterion.comparison.Answers source left right := by
  cases criterion with
  | argumentTypes => exact ⟨_, Comparison.outcome_argumentTypes_of_inRangeFor hleft hright⟩
  | _ => exact ⟨_, rfl⟩

theorem Criterion.answers (criterion : Criterion) {left right : Candidate}
    (hleft : left.InRange) (hright : right.InRange) (source : Method) :
    criterion.comparison.Answers source left right :=
  criterion.answers_of_inRangeFor (hleft.inRangeFor source) (hright.inRangeFor source)

end Delegation
