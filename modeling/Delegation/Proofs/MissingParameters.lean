import Delegation.Proofs.Nesting
import Delegation.Proofs.SharedPositions

/-!
# Missing parameters

A candidate whose routes nobody checked may lead to a parameter that its target
lacks.  The comparison of argument types finds out at the first position that
both candidates route and at which one of the two leads astray, and it fails
there whatever the positions before it have settled.  A resolver fails as this
comparison does, unless a leaf before it has decided.
-/

namespace Delegation

/-! ## The first failure of a row -/

namespace Inquiry

variable {α β : Type}

/-- The parameter that was missing, if the run has failed. -/
def missing? (inquiry : Inquiry α) : Option MissingParameter :=
  match inquiry.outcome with
  | .error missing => some missing
  | .ok _ => none

theorem missing?_eq_some_iff {inquiry : Inquiry α} {missing : MissingParameter} :
    inquiry.missing? = some missing ↔ inquiry.outcome = .error missing := by
  unfold missing?
  cases inquiry.outcome <;> simp

theorem missing?_bind (first : Inquiry α) (next : α → Inquiry β) :
    (first >>= next).missing? =
      match first.outcome with
      | .error missing => some missing
      | .ok value => (next value).missing? := by
  rw [missing?, outcome_bind]
  cases first.outcome <;> rfl

theorem missing?_bind_pure (first : Inquiry α) (next : α → β) :
    (first >>= fun value => pure (next value)).missing? = first.missing? := by
  rw [missing?_bind, missing?]
  cases first.outcome <;> rfl

theorem missing?_mapM (step : α → Inquiry β) (items : List α) :
    (items.mapM step).missing? = items.findSome? fun item => (step item).missing? := by
  induction items with
  | nil => rfl
  | cons item items ih =>
      rw [List.mapM_cons, missing?_bind, List.findSome?_cons, ← ih, missing?]
      cases (step item).outcome with
      | error missing => rfl
      | ok value => exact missing?_bind_pure (items.mapM step) (value :: ·)

end Inquiry

theorem findSome?_range_eq_some_iff {α : Type} {find : Nat → Option α} {count : Nat} {found : α} :
    (List.range count).findSome? find = some found ↔
      ∃ position < count, find position = some found ∧
        ∀ earlier < position, find earlier = none := by
  induction count with
  | zero => simp
  | succ count ih =>
      rw [List.range_succ, List.findSome?_append, Option.or_eq_some_iff, ih,
        List.findSome?_eq_none_iff, List.findSome?_singleton]
      simp only [List.mem_range]
      constructor
      · rintro (⟨position, hlt, hfound⟩ | ⟨hnone, hfound⟩)
        · exact ⟨position, by omega, hfound⟩
        · exact ⟨count, by omega, hfound, hnone⟩
      · rintro ⟨position, hlt, hfound, hbefore⟩
        obtain hlt | rfl := Nat.lt_succ_iff_lt_or_eq.mp hlt
        · exact .inl ⟨position, hlt, hfound, hbefore⟩
        · exact .inr ⟨hbefore, hfound⟩

/-! ## Argument types -/

namespace Comparison

/-- Both candidates route the position, and one of them leads to no parameter of its target. -/
def AstrayAt (left right : Candidate) (position : Nat) : Prop :=
  ∃ leftTarget ∈ left.route position, ∃ rightTarget ∈ right.route position,
    left.target.arity ≤ leftTarget ∨ right.target.arity ≤ rightTarget

instance (left right : Candidate) (position : Nat) : Decidable (AstrayAt left right position) :=
  inferInstanceAs (Decidable (∃ leftTarget ∈ left.route position,
    ∃ rightTarget ∈ right.route position, _))

/-- Where the left candidate leads astray, or else the right one, if both route the position. -/
def missingAt? (left right : Candidate) (position : Nat) : Option MissingParameter :=
  match left.route position, right.route position with
  | some leftTarget, some rightTarget =>
      if left.target.arity ≤ leftTarget then some ⟨leftTarget, left.target⟩
      else if right.target.arity ≤ rightTarget then some ⟨rightTarget, right.target⟩
      else none
  | _, _ => none

variable {source : Method} {left right : Candidate}

theorem isSome_missingAt?_iff {position : Nat} :
    (missingAt? left right position).isSome ↔ AstrayAt left right position := by
  unfold missingAt? AstrayAt
  cases left.route position with
  | none => simp
  | some leftTarget =>
      cases right.route position with
      | none => simp
      | some rightTarget =>
          by_cases hleft : left.target.arity ≤ leftTarget
          · simp [hleft]
          · by_cases hright : right.target.arity ≤ rightTarget <;> simp [hleft, hright]

theorem missing?_comparePosition (left right : Candidate) (type : ParamType) (position : Nat) :
    (comparePosition left right type position).missing? = missingAt? left right position := by
  rw [Inquiry.missing?, outcome_comparePosition, missingAt?]
  cases left.route position with
  | none => rfl
  | some leftTarget =>
      cases right.route position with
      | none => rfl
      | some rightTarget =>
          by_cases hleft : left.target.arity ≤ leftTarget
          · simp [hleft, Method.parameter_of_le hleft, bind, Except.bind]
          · obtain ⟨leftType, hleftType⟩ := Method.exists_parameter_of_lt (Nat.not_le.mp hleft)
            by_cases hright : right.target.arity ≤ rightTarget
            · simp [hleft, hright, hleftType, Method.parameter_of_le hright, bind, Except.bind]
            · obtain ⟨rightType, hrightType⟩ := Method.exists_parameter_of_lt (Nat.not_le.mp hright)
              simp [hleft, hright, hleftType, hrightType, bind, Except.bind]

theorem missing?_argumentTypes (source : Method) (left right : Candidate) :
    (argumentTypes source left right).missing? =
      (List.range source.arity).findSome? (missingAt? left right) := by
  rw [argumentTypes, Inquiry.missing?_bind_pure, Inquiry.missing?_mapM,
    ← source.map_snd_zipIdx_parameters, List.findSome?_map]
  simp only [missing?_comparePosition]
  rfl

theorem argumentTypes_missing_iff :
    (∃ missing, (argumentTypes source left right).outcome = .error missing) ↔
      ∃ position < source.arity, AstrayAt left right position := by
  simp only [← Inquiry.missing?_eq_some_iff, ← Option.isSome_iff_exists, missing?_argumentTypes,
    List.findSome?_isSome_iff, List.mem_range, isSome_missingAt?_iff]

theorem missingAt?_of_left {position leftTarget rightTarget : Nat}
    (hleftRoute : left.route position = some leftTarget)
    (hrightRoute : right.route position = some rightTarget)
    (h : left.target.arity ≤ leftTarget) :
    missingAt? left right position = some ⟨leftTarget, left.target⟩ := by
  simp [missingAt?, hleftRoute, hrightRoute, h]

theorem missingAt?_of_right {position leftTarget rightTarget : Nat}
    (hleftRoute : left.route position = some leftTarget)
    (hrightRoute : right.route position = some rightTarget)
    (hleft : leftTarget < left.target.arity) (h : right.target.arity ≤ rightTarget) :
    missingAt? left right position = some ⟨rightTarget, right.target⟩ := by
  simp [missingAt?, hleftRoute, hrightRoute, Nat.not_le.mpr hleft, h]

theorem argumentTypes_missing_first {position : Nat} (hposition : position < source.arity)
    (hfirst : ∀ earlier < position, ¬ AstrayAt left right earlier) {missing : MissingParameter}
    (hmissing : missingAt? left right position = some missing) :
    (argumentTypes source left right).outcome = .error missing := by
  rw [← Inquiry.missing?_eq_some_iff, missing?_argumentTypes, findSome?_range_eq_some_iff]
  refine ⟨position, hposition, hmissing, fun earlier hearlier => ?_⟩
  rw [← Option.not_isSome_iff_eq_none, isSome_missingAt?_iff]
  exact hfirst earlier hearlier

theorem outcome_comparePosition_of_unshared {position : Nat}
    (h : left.route position = none ∨ right.route position = none) (type : ParamType) :
    (comparePosition left right type position).outcome = .ok .unknown := by
  rw [outcome_comparePosition]
  rcases h with hleft | hright
  · rw [hleft]
  · rw [hright]
    cases left.route position <;> rfl

/-! ## Failures in turn -/

/-- No outcome is looked at after this one. -/
def stops : Except MissingParameter Verdict → Bool
  | .error _ => true
  | .ok verdict => verdict.isDecided

theorem stops_iff {outcome : Except MissingParameter Verdict} :
    stops outcome = true ↔
      (∃ missing, outcome = .error missing) ∨ ∃ side, outcome = .ok (.favouring side) := by
  cases outcome with
  | error missing => simp [stops]
  | ok verdict =>
      rw [stops, ← Bool.not_eq_false, ← Verdict.side?_eq_none_iff, ← ne_eq,
        Option.ne_none_iff_exists']
      simp [Verdict.side?_eq_some_iff]

theorem settleInTurn_eq_error_iff {start : Verdict} (hstart : start.isDecided = false)
    {outcomes : List (Except MissingParameter Verdict)} {missing : MissingParameter} :
    settleInTurn start outcomes = .error missing ↔
      outcomes.find? stops = some (.error missing) := by
  induction outcomes generalizing start with
  | nil => simp [settleInTurn]
  | cons outcome outcomes ih =>
      rw [settleInTurn_cons hstart, List.find?_cons]
      cases outcome with
      | error other =>
          change Except.error other = _ ↔ some (Except.error other) = _
          rw [Option.some_inj]
      | ok next =>
          change settleInTurn next outcomes = _ ↔ _
          cases hnext : next.isDecided with
          | true => simp [stops, settleInTurn_of_decided hnext, hnext]
          | false => simp only [stops, hnext, ih hnext]

end Comparison

/-! ## Resolvers -/

theorem Resolver.outcome_eq_error_iff {Leaf : Type} {interpret : Leaf → Comparison}
    {source : Method} {left right : Candidate} (resolver : Resolver Leaf)
    {missing : MissingParameter} :
    (resolver.comparison interpret source left right).outcome = .error missing ↔
      Comparison.settleInTurn .unknown
        (resolver.leafOutcomes interpret source left right) = .error missing := by
  have hsides : (resolver.comparison interpret source left right).outcome.map Verdict.side? =
      (Comparison.settleInTurn .unknown
        (resolver.leafOutcomes interpret source left right)).map Verdict.side? :=
    resolver.map_side?_outcome rfl
  rcases Inquiry.outcomes_of_map_eq hsides with
    ⟨other, hone, htwo⟩ | ⟨one, two, hone, htwo, -⟩
  · rw [hone, htwo]
  · rw [hone, htwo]
    simp

/-- A resolver fails as the first of its leaves that stops the row, if that one fails. -/
theorem Resolver.outcome_eq_error_iff_find? {Leaf : Type} {interpret : Leaf → Comparison}
    {source : Method} {left right : Candidate} {resolver : Resolver Leaf}
    {missing : MissingParameter} :
    (resolver.comparison interpret source left right).outcome = .error missing ↔
      ∃ leaf, resolver.leaves.find?
          (fun leaf => Comparison.stops (interpret leaf source left right).outcome) = some leaf ∧
        (interpret leaf source left right).outcome = .error missing := by
  rw [resolver.outcome_eq_error_iff, Comparison.settleInTurn_eq_error_iff rfl, leafOutcomes,
    List.find?_map, Option.map_eq_some_iff]
  rfl

theorem Criterion.eq_argumentTypes_of_error {criterion : Criterion} {source : Method}
    {left right : Candidate} {missing : MissingParameter}
    (h : (criterion.comparison source left right).outcome = .error missing) :
    criterion = .argumentTypes := by
  cases criterion with
  | argumentTypes => rfl
  | _ => cases h

theorem Resolver.missing_iff {source : Method} {left right : Candidate}
    (resolver : Resolver Criterion) {missing : MissingParameter} :
    (resolver.comparison Criterion.comparison source left right).outcome = .error missing ↔
      (Comparison.argumentTypes source left right).outcome = .error missing ∧
        ∃ before after, resolver.leaves = before ++ .argumentTypes :: after ∧
          ∀ leaf ∈ before, ∀ side,
            (leaf.comparison source left right).outcome ≠ .ok (.favouring side) := by
  rw [outcome_eq_error_iff_find?]
  constructor
  · rintro ⟨leaf, hfirst, hleaf⟩
    obtain rfl := Criterion.eq_argumentTypes_of_error hleaf
    obtain ⟨-, before, after, hleaves, hbefore⟩ := List.find?_eq_some_iff_append.mp hfirst
    refine ⟨hleaf, before, after, hleaves, fun earlier hearlier side hside => ?_⟩
    have hgoes := hbefore earlier hearlier
    rw [Comparison.stops_iff.mpr (.inr ⟨side, hside⟩)] at hgoes
    cases hgoes
  · rintro ⟨hmissing, before, after, hleaves, hbefore⟩
    -- The comparison of argument types may be among the leaves before it as well.
    cases hfirst : before.find? fun leaf =>
        Comparison.stops (leaf.comparison source left right).outcome with
    | some leaf =>
        refine ⟨leaf, by rw [hleaves, List.find?_append, hfirst]; rfl, ?_⟩
        have hstops := List.find?_some hfirst
        rw [Comparison.stops_iff] at hstops
        rcases hstops with ⟨other, hother⟩ | ⟨side, hside⟩
        · obtain rfl := Criterion.eq_argumentTypes_of_error hother
          exact hmissing
        · exact absurd hside (hbefore leaf (List.mem_of_find?_eq_some hfirst) side)
    | none =>
        have hstops := Comparison.stops_iff.mpr (.inl ⟨missing, hmissing⟩)
        refine ⟨.argumentTypes, ?_, hmissing⟩
        rw [hleaves, List.find?_append, hfirst, Option.none_or]
        exact List.find?_cons_of_pos hstops

/--
The comparison of argument types fails exactly if candidates lead astray at a position that both
route.  It fails at the first one, for the left candidate if that is astray there, and a resolver
fails with it unless a leaf before it prefers a side.
-/
theorem missing_parameter_exact (source : Method) (left right : Candidate) :
    ((∃ missing, (Comparison.argumentTypes source left right).outcome = .error missing) ↔
      ∃ position < source.arity, Comparison.AstrayAt left right position) ∧
    (∀ position < source.arity, ∀ leftTarget ∈ left.route position,
      ∀ rightTarget ∈ right.route position,
        (∀ earlier < position, ¬ Comparison.AstrayAt left right earlier) →
          (left.target.arity ≤ leftTarget →
            (Comparison.argumentTypes source left right).outcome.mapError
                MissingParameter.message =
              .error ("parameter index " ++ toString leftTarget ++ " out of range for " ++
                left.target.text ++ " with " ++ toString left.target.arity ++ " parameters")) ∧
          (leftTarget < left.target.arity → right.target.arity ≤ rightTarget →
            (Comparison.argumentTypes source left right).outcome.mapError
                MissingParameter.message =
              .error ("parameter index " ++ toString rightTarget ++ " out of range for " ++
                right.target.text ++ " with " ++ toString right.target.arity ++
                  " parameters"))) ∧
    (∀ position type, left.route position = none ∨ right.route position = none →
      (Comparison.comparePosition left right type position).outcome = .ok .unknown) ∧
    ∀ (resolver : Resolver Criterion) (missing : MissingParameter),
      (resolver.comparison Criterion.comparison source left right).outcome = .error missing ↔
        (Comparison.argumentTypes source left right).outcome = .error missing ∧
          ∃ before after, resolver.leaves = before ++ .argumentTypes :: after ∧
            ∀ leaf ∈ before, ∀ side,
              (leaf.comparison source left right).outcome ≠ .ok (.favouring side) := by
  refine ⟨Comparison.argumentTypes_missing_iff, ?_, ?_, fun resolver _ => resolver.missing_iff⟩
  · intro position hposition leftTarget hleftRoute rightTarget hrightRoute hfirst
    rw [Option.mem_def] at hleftRoute hrightRoute
    constructor
    · intro hleft
      have hmissing := Comparison.missingAt?_of_left hleftRoute hrightRoute hleft
      rw [Comparison.argumentTypes_missing_first hposition hfirst hmissing]
      rfl
    · intro hleft hright
      have hmissing := Comparison.missingAt?_of_right hleftRoute hrightRoute hleft hright
      rw [Comparison.argumentTypes_missing_first hposition hfirst hmissing]
      rfl
  · intro position type hunshared
    exact Comparison.outcome_comparePosition_of_unshared hunshared type

namespace Comparison

def straying : Candidate := (Binding.mk crossing.target [(0, 5), (1, 9)]).candidate

def overreaching : Candidate := (Binding.mk converging.target [(1, 4), (2, 7)]).candidate

end Comparison

/-- Of the four routes, all of which lead astray, the left candidate's from the shared position. -/
theorem missing_parameter_exact_straying :
    ((Comparison.argumentTypes Comparison.receiving Comparison.straying
          Comparison.overreaching).outcome.mapError MissingParameter.message =
        .error ("parameter index 9 out of range for " ++ Comparison.straying.target.text ++
          " with 2 parameters")) ∧
      ∃ missing, (Chain.standard.resolver.comparison Criterion.comparison Comparison.receiving
        Comparison.straying Comparison.overreaching).outcome = .error missing := by
  have hexact := missing_parameter_exact Comparison.receiving Comparison.straying
    Comparison.overreaching
  refine ⟨(hexact.2.1 1 (by decide) 9 rfl 4 rfl (by decide)).1 (by decide), ?_⟩
  obtain ⟨missing, hmissing⟩ := hexact.1.mpr ⟨1, by decide, by decide⟩
  refine ⟨missing, (hexact.2.2.2 _ missing).mpr ⟨hmissing, [.priority, .owner], [.name, .arity],
    Chain.leaves_ofLeaves _, ?_⟩⟩
  intro leaf hleaf side
  rw [List.mem_pair] at hleaf
  rcases hleaf with rfl | rfl
  · cases side <;> exact fun h => nomatch h
  · cases side <;> exact fun h => nomatch h

end Delegation
