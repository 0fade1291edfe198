import Delegation.Inquiry

/-!
# Comparisons

A comparison weighs two candidates for one source method.  The simplest ones
look at the two targets only.  `argumentTypes` goes through the parameters of
the source in order and joins what `ParamType.compare` says of the target
parameters that both candidates route a position to.  `inOrder` asks several
comparisons until one of them decides.
-/

namespace Delegation

abbrev Comparison := Method → Candidate → Candidate → Inquiry Verdict

namespace Comparison

open Inquiry

def constant (verdict : Verdict) : Comparison := fun _ _ _ => pure verdict

def ofTargets (weigh : Method → Method → Method → Verdict) : Comparison :=
  fun source left right => do
    let leftTarget ← readTarget .left left
    let rightTarget ← readTarget .right right
    pure (weigh source leftTarget rightTarget)

/-! ## Weighing targets -/

def preferGreater {Key : Type} [LT Key] [DecidableLT Key] (left right : Key) : Verdict :=
  if right < left then .left
  else if left < right then .right
  else .ambiguous

theorem preferGreater_eq_left_iff {Key : Type} [LT Key] [DecidableLT Key] {left right : Key} :
    preferGreater left right = .left ↔ right < left := by
  unfold preferGreater
  by_cases hright : right < left
  · simp [hright]
  · by_cases hleft : left < right <;> simp [hright, hleft]

/-- The owner assignable to the other is preferred, so an override beats what it overrides. -/
def weighOwners (left right : ClassType) : Verdict :=
  if left == right then .ambiguous
  else if left.assignableFrom right then .right
  else if left.assignableTo right then .left
  else .ambiguous

/-! ## Weighing argument types -/

def comparePosition (left right : Candidate) (source : ParamType) (position : Nat) :
    Inquiry Verdict := do
  let leftPosition ← ask .left left position
  let rightPosition ← ask .right right position
  match leftPosition, rightPosition with
  | some leftPosition, some rightPosition =>
      let leftType ← parameter (← readTarget .left left) leftPosition
      let rightType ← parameter (← readTarget .right right) rightPosition
      let verdict := ParamType.compare source leftType rightType
      log (.positionCompared position leftType rightType verdict)
      pure verdict
  | _, _ =>
      log (.positionSkipped position)
      pure .unknown

def argumentTypes : Comparison := fun source left right => do
  let verdicts ← source.parameters.zipIdx.mapM fun (type, position) =>
    comparePosition left right type position
  pure (Verdict.joinAll verdicts)

/-! ## Asking several comparisons -/

def askInTurn (source : Method) (left right : Candidate) :
    Verdict → List Comparison → Inquiry Verdict
  | verdict, [] => pure verdict
  | verdict, comparison :: comparisons =>
      if verdict.isDecided then pure verdict
      else do askInTurn source left right (← comparison source left right) comparisons

/-- The last verdict obtained is the answer, and the pair is logged with it. -/
def inOrder (comparisons : List Comparison) : Comparison := fun source left right => do
  let verdict ← askInTurn source left right .unknown comparisons
  log (.pairCompared source left.target right.target verdict)
  pure verdict

end Comparison

end Delegation
