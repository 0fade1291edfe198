import Delegation.Resolver

/-!
# Outcomes

The outcome of a run forgets its trail.  A comparison that asks others in turn
comes out as their outcomes settle: each is looked at while nothing is decided,
and a failure ends the row.  So the outcome of a resolver is determined by the
outcomes of its leaves, and a resolver answers wherever its leaves do.
-/

namespace Delegation

/-! ## Outcomes of composed runs -/

namespace Inquiry

variable {α β : Type}

theorem outcome_bind (first : Inquiry α) (next : α → Inquiry β) :
    (first >>= next).outcome = first.outcome >>= fun value => (next value).outcome := by
  cases h : first.outcome with
  | error missing =>
      rw [bind_eq_of_error h]
      rfl
  | ok value =>
      rw [bind_eq_of_ok h]
      rfl

theorem outcome_mapM_of_ok {step : α → Inquiry β} {value : α → β} (items : List α)
    (h : ∀ item ∈ items, (step item).outcome = .ok (value item)) :
    (items.mapM step).outcome = .ok (items.map value) := by
  induction items with
  | nil => rfl
  | cons item items ih =>
      have hitem := h item (by simp)
      have hitems := ih fun other hother => h other (by simp [hother])
      rw [List.mapM_cons, bind_eq_of_ok hitem, bind_eq_of_ok hitems]
      rfl

theorem outcome_mapM_congr {first second : α → Inquiry β} (items : List α)
    (h : ∀ item ∈ items, (first item).outcome = (second item).outcome) :
    (items.mapM first).outcome = (items.mapM second).outcome := by
  induction items with
  | nil => rfl
  | cons item items ih =>
      have hitem := h item (by simp)
      have hitems := ih fun other hother => h other (by simp [hother])
      simp only [List.mapM_cons, outcome_bind, hitem, hitems]

/-- Outcomes of one view fail alike, or their values have that view in common. -/
theorem outcomes_of_map_eq {first second : Except MissingParameter α} {view : α → β}
    (h : first.map view = second.map view) :
    (∃ missing, first = .error missing ∧ second = .error missing) ∨
      ∃ value other, first = .ok value ∧ second = .ok other ∧ view value = view other := by
  cases first with
  | error missing =>
      cases second with
      | error missing' => exact .inl ⟨missing, rfl, congrArg Except.error (Except.error.inj h).symm⟩
      | ok other => cases h
  | ok value =>
      cases second with
      | error missing => cases h
      | ok other => exact .inr ⟨value, other, rfl, rfl, Except.ok.inj h⟩

end Inquiry

/-! ## Outcomes in turn -/

namespace Comparison

def Answers (comparison : Comparison) (source : Method) (left right : Candidate) : Prop :=
  ∃ verdict, (comparison source left right).outcome = .ok verdict

/-- What the comparison answers; where it fails, nothing is known. -/
def verdict (comparison : Comparison) (source : Method) (left right : Candidate) : Verdict :=
  match (comparison source left right).outcome with
  | .ok verdict => verdict
  | .error _ => .unknown

theorem Answers.outcome_eq {comparison : Comparison} {source : Method} {left right : Candidate}
    (h : comparison.Answers source left right) :
    (comparison source left right).outcome = .ok (comparison.verdict source left right) := by
  obtain ⟨verdict, hverdict⟩ := h
  rw [Comparison.verdict, hverdict]

theorem Answers.outcome_eq_favouring_iff {comparison : Comparison} {source : Method}
    {left right : Candidate} (h : comparison.Answers source left right) {side : Side} :
    (comparison source left right).outcome = .ok (.favouring side) ↔
      (comparison.verdict source left right).side? = some side := by
  rw [h.outcome_eq, Except.ok.injEq, Verdict.side?_eq_some_iff]

/-- The first decided verdict, or else the last one, unless an outcome before it fails. -/
def settleInTurn : Verdict → List (Except MissingParameter Verdict) →
    Except MissingParameter Verdict
  | verdict, [] => .ok verdict
  | verdict, outcome :: outcomes =>
      if verdict.isDecided then .ok verdict
      else outcome >>= fun next => settleInTurn next outcomes

theorem outcome_askInTurn (source : Method) (left right : Candidate) (verdict : Verdict)
    (comparisons : List Comparison) :
    (askInTurn source left right verdict comparisons).outcome =
      settleInTurn verdict (comparisons.map fun comparison =>
        (comparison source left right).outcome) := by
  induction comparisons generalizing verdict with
  | nil => rfl
  | cons comparison comparisons ih =>
      rw [askInTurn, List.map_cons, settleInTurn]
      split
      · rfl
      · simp only [Inquiry.outcome_bind, ih]

theorem outcome_inOrder (comparisons : List Comparison) (source : Method)
    (left right : Candidate) :
    (inOrder comparisons source left right).outcome =
      settleInTurn .unknown (comparisons.map fun comparison =>
        (comparison source left right).outcome) := by
  rw [inOrder, Inquiry.outcome_bind, outcome_askInTurn]
  cases settleInTurn .unknown _ <;> rfl

theorem settleInTurn_of_decided {verdict : Verdict} (h : verdict.isDecided = true)
    (outcomes : List (Except MissingParameter Verdict)) :
    settleInTurn verdict outcomes = .ok verdict := by
  cases outcomes with
  | nil => rfl
  | cons outcome outcomes => rw [settleInTurn, if_pos h]

theorem settleInTurn_cons {verdict : Verdict} (h : verdict.isDecided = false)
    (outcome : Except MissingParameter Verdict)
    (outcomes : List (Except MissingParameter Verdict)) :
    settleInTurn verdict (outcome :: outcomes) =
      outcome >>= fun next => settleInTurn next outcomes := by
  rw [settleInTurn, if_neg (by simp [h])]

theorem settleInTurn_append (verdict : Verdict)
    (first second : List (Except MissingParameter Verdict)) :
    settleInTurn verdict (first ++ second) =
      settleInTurn verdict first >>= fun next => settleInTurn next second := by
  induction first generalizing verdict with
  | nil => rfl
  | cons outcome first ih =>
      cases hdecided : verdict.isDecided with
      | true =>
          rw [settleInTurn_of_decided hdecided, settleInTurn_of_decided hdecided]
          exact (settleInTurn_of_decided hdecided second).symm
      | false =>
          rw [List.cons_append, settleInTurn_cons hdecided, settleInTurn_cons hdecided]
          cases outcome with
          | error missing => rfl
          | ok next => exact ih next

theorem settleInTurn_map_swap (verdict : Verdict)
    (outcomes : List (Except MissingParameter Verdict)) :
    settleInTurn verdict.swap (outcomes.map (Except.map Verdict.swap)) =
      (settleInTurn verdict outcomes).map Verdict.swap := by
  induction outcomes generalizing verdict with
  | nil => rfl
  | cons outcome outcomes ih =>
      rw [List.map_cons, settleInTurn, settleInTurn, Verdict.isDecided_swap]
      split
      · rfl
      · cases outcome with
        | error missing => rfl
        | ok next => exact ih next

theorem exists_settleInTurn_eq_ok {outcomes : List (Except MissingParameter Verdict)}
    (h : ∀ outcome ∈ outcomes, ∃ verdict, outcome = .ok verdict) (verdict : Verdict) :
    ∃ last, settleInTurn verdict outcomes = .ok last := by
  induction outcomes generalizing verdict with
  | nil => exact ⟨verdict, rfl⟩
  | cons outcome outcomes ih =>
      obtain ⟨next, rfl⟩ := h outcome (by simp)
      rw [settleInTurn]
      split
      · exact ⟨verdict, rfl⟩
      · exact ih (fun other hother => h other (by simp [hother])) next

end Comparison

/-! ## Outcomes of resolvers -/

namespace Resolver

variable {Leaf : Type}

@[elab_as_elim, induction_eliminator]
theorem induction {motive : Resolver Leaf → Prop} (single : ∀ leaf, motive (.single leaf))
    (chain : ∀ members, (∀ member ∈ members, motive member) → motive (.chain members))
    (resolver : Resolver Leaf) : motive resolver :=
  match resolver with
  | .single leaf => single leaf
  | .chain members => chain members fun member _ => induction single chain member

theorem mem_leaves_chain {members : List (Resolver Leaf)} {leaf : Leaf} :
    leaf ∈ (Resolver.chain members).leaves ↔ ∃ member ∈ members, leaf ∈ member.leaves := by
  rw [leaves, leavesOfAll_eq_flatMap, List.mem_flatMap]

theorem outcome_chain (interpret : Leaf → Comparison) (members : List (Resolver Leaf))
    (source : Method) (left right : Candidate) :
    ((Resolver.chain members).comparison interpret source left right).outcome =
      Comparison.settleInTurn .unknown (members.map fun member =>
        (member.comparison interpret source left right).outcome) := by
  rw [comparison, comparisons_eq_map, Comparison.outcome_inOrder, List.map_map]
  rfl

theorem answers_of_leaves {interpret : Leaf → Comparison} {source : Method}
    {left right : Candidate} (resolver : Resolver Leaf)
    (h : ∀ leaf ∈ resolver.leaves, (interpret leaf).Answers source left right) :
    (resolver.comparison interpret).Answers source left right := by
  induction resolver with
  | single leaf => exact h leaf (by simp [leaves])
  | chain members ih =>
      have hmembers : ∀ member ∈ members,
          (member.comparison interpret).Answers source left right := fun member hmember =>
        ih member hmember fun leaf hleaf => h leaf (mem_leaves_chain.mpr ⟨member, hmember, hleaf⟩)
      rw [Comparison.Answers, outcome_chain]
      apply Comparison.exists_settleInTurn_eq_ok
      intro outcome houtcome
      obtain ⟨member, hmember, rfl⟩ := List.mem_map.mp houtcome
      exact hmembers member hmember

end Resolver

end Delegation
