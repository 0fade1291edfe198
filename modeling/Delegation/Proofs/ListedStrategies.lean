import Delegation.Settings.Basic
import Delegation.Proofs.MissingParameters

/-!
# What listed strategies answer

Each strategy looks at one thing about the two candidates.  The chain of settings
answers as the first listed strategy that decides, else as the tie breaker, and
without one as the strategy that is listed last; without any settings it is the
standard chain.  A strategy that is listed again says what it has said before, so
it never decides.  Leaving repeats out keeps every decision and every choice; all
it can change is which strategy comes last, and with a tie breaker that one is not
heard either.
-/

namespace Delegation

/-! ## Repeated items -/

/-- An item that comes again is not accepted if it was not before. -/
theorem find?_eraseDups {α : Type} [BEq α] [LawfulBEq α] (accepts : α → Bool) (items : List α) :
    items.eraseDups.find? accepts = items.find? accepts := by
  match items with
  | [] => rfl
  | item :: items =>
      rw [List.eraseDups_cons, List.find?_cons, List.find?_cons]
      cases hitem : accepts item with
      | true => rfl
      | false =>
          -- What is filtered out is not accepted, so the filter is not noticed by the search.
          have haccepts : (fun other => decide ((!other == item) = true ∧ accepts other = true)) =
              accepts := by
            funext other
            by_cases hsame : other = item
            · simp [hsame, hitem]
            · simp [hsame]
          have hrest := find?_eraseDups accepts (items.filter fun other => !other == item)
          rwa [List.find?_filter, haccepts] at hrest
termination_by items.length
decreasing_by exact Nat.lt_succ_of_le (List.length_filter_le _ _)

/-! ## Outcomes in turn -/

namespace Comparison

/-- The first outcome that ends the row, or else the last one. -/
theorem settleInTurn_eq_find? {start : Verdict} (hstart : start.isDecided = false)
    (outcomes : List (Except MissingParameter Verdict)) :
    settleInTurn start outcomes =
      (outcomes.find? stops).getD (outcomes.getLast?.getD (.ok start)) := by
  induction outcomes generalizing start with
  | nil => rfl
  | cons outcome outcomes ih =>
      rw [settleInTurn_cons hstart, List.find?_cons, List.getLast?_cons]
      cases outcome with
      | error missing => rfl
      | ok next =>
          change settleInTurn next outcomes = _
          cases hnext : next.isDecided with
          | true => simp [stops, settleInTurn_of_decided hnext, hnext]
          | false => simp [stops, hnext, ih hnext]

theorem map_side?_of_not_stops {outcome : Except MissingParameter Verdict}
    (h : stops outcome = false) : outcome.map Verdict.side? = .ok none := by
  cases outcome with
  | error missing => cases h
  | ok verdict => exact congrArg Except.ok (Verdict.side?_eq_none_iff.mpr h)

theorem map_side?_eq_some_iff {outcome : Except MissingParameter Verdict} {side : Side} :
    outcome.map Verdict.side? = .ok (some side) ↔ outcome = .ok (.favouring side) := by
  cases outcome with
  | error missing => simp [Except.map]
  | ok verdict => simp [Except.map, Verdict.side?_eq_some_iff]

end Comparison

/-! ## What a strategy says -/

/-- What a strategy says of two candidates, by what it looks at. -/
def Strategy.verdict (source : Method) (left right : Candidate) : Strategy → Verdict
  | .priority => Comparison.preferGreater left.target.priority right.target.priority
  | .owner => Comparison.weighOwners left.target.owner right.target.owner
  | .argumentTypes => Verdict.joinAll (Comparison.sharedVerdicts source left right)
  | .name => Comparison.preferGreater (left.target.name == source.name)
      (right.target.name == source.name)
  | .arity => Comparison.preferGreater left.target.arity right.target.arity

theorem Strategy.outcome_criterion {source : Method} {left right : Candidate}
    (hleft : left.InRangeFor source) (hright : right.InRangeFor source) (strategy : Strategy) :
    (strategy.criterion.comparison source left right).outcome =
      .ok (strategy.verdict source left right) := by
  cases strategy with
  | argumentTypes => exact Comparison.outcome_argumentTypes_of_inRangeFor hleft hright
  | priority | owner | name | arity => rfl

/-! ## Settings -/

namespace Settings

variable (settings : Settings)

def comparison : Comparison := settings.chain.resolver.comparison Criterion.comparison

def withoutRepeats : Settings := { settings with strategies := settings.strategies.eraseDups }

/-- What the settings make of the verdicts of the strategies. -/
def verdictOf (verdict : Strategy → Verdict) : Verdict :=
  match settings.strategies.find? fun strategy => (verdict strategy).isDecided with
  | some strategy => verdict strategy
  | none =>
      match settings.tieBreaker with
      | some side => .favouring side
      | none => (settings.strategies.getLast?.map verdict).getD .unknown

/-- What is answered unless a strategy ends the row, given what each strategy comes to. -/
def fallback (outcome : Strategy → Except MissingParameter Verdict) :
    Except MissingParameter Verdict :=
  match settings.tieBreaker with
  | some side => .ok (.favouring side)
  | none => (settings.strategies.getLast?.map outcome).getD (.ok .unknown)

variable (source : Method) (left right : Candidate)

def outcomeOf (strategy : Strategy) : Except MissingParameter Verdict :=
  (strategy.criterion.comparison source left right).outcome

theorem outcome_comparison :
    (settings.comparison source left right).outcome =
      ((settings.strategies.find? fun strategy =>
          Comparison.stops (outcomeOf source left right strategy)).map
        (outcomeOf source left right)).getD (settings.fallback (outcomeOf source left right)) := by
  have hrow : (settings.comparison source left right).outcome =
      Comparison.settleInTurn .unknown
        (settings.strategies.map (outcomeOf source left right) ++
          settings.tieBreaker.toList.map fun side => .ok (.favouring side)) := by
    rw [comparison, chain_eq_ofLeaves, Chain.resolver, Chain.ofLeaves, Resolver.outcome_chain,
      criteria]
    simp only [List.map_map, List.map_append]
    rfl
  rw [hrow, Comparison.settleInTurn_eq_find? rfl, List.find?_append, List.find?_map,
    List.getLast?_append, List.getLast?_map, Function.comp_def]
  cases settings.strategies.find? fun strategy =>
      Comparison.stops (outcomeOf source left right strategy) with
  | some strategy => rfl
  | none =>
      cases htieBreaker : settings.tieBreaker with
      | none => simp [fallback, htieBreaker]
      | some side =>
          have hstops : Comparison.stops (.ok (.favouring side)) = true :=
            Comparison.stops_iff.mpr (.inr ⟨side, rfl⟩)
          simp [fallback, htieBreaker, hstops]

theorem outcome_comparison_of_inRangeFor (hleft : left.InRangeFor source)
    (hright : right.InRangeFor source) :
    (settings.comparison source left right).outcome =
      .ok (settings.verdictOf (Strategy.verdict source left right)) := by
  have houtcomes : outcomeOf source left right = fun strategy =>
      .ok (strategy.verdict source left right) :=
    funext (Strategy.outcome_criterion hleft hright)
  rw [outcome_comparison, houtcomes, verdictOf]
  simp only [Comparison.stops, fallback]
  cases settings.strategies.find? fun strategy =>
      (strategy.verdict source left right).isDecided with
  | some strategy => rfl
  | none =>
      cases settings.tieBreaker with
      | some side => rfl
      | none => cases settings.strategies.getLast? <;> rfl

theorem chain_default : ({} : Settings).chain = Chain.standard :=
  chain_eq_ofLeaves {}

/-! ## Repeated strategies -/

theorem outcome_withoutRepeats :
    (settings.withoutRepeats.comparison source left right).outcome =
      ((settings.strategies.find? fun strategy =>
          Comparison.stops (outcomeOf source left right strategy)).map
        (outcomeOf source left right)).getD
          (settings.withoutRepeats.fallback (outcomeOf source left right)) := by
  rw [outcome_comparison, ← find?_eraseDups _ settings.strategies]
  rfl

theorem outcome_withoutRepeats_of_tieBreaker (h : settings.tieBreaker ≠ none) :
    (settings.withoutRepeats.comparison source left right).outcome =
      (settings.comparison source left right).outcome := by
  obtain ⟨side, hside⟩ := Option.ne_none_iff_exists'.mp h
  have hfallback : settings.withoutRepeats.fallback (outcomeOf source left right) =
      settings.fallback (outcomeOf source left right) := by
    simp only [fallback, withoutRepeats, hside]
  rw [outcome_withoutRepeats, outcome_comparison, hfallback]

theorem map_side?_fallback {outcome : Strategy → Except MissingParameter Verdict}
    (htieBreaker : settings.tieBreaker = none)
    (h : ∀ strategy ∈ settings.strategies, Comparison.stops (outcome strategy) = false) :
    (settings.fallback outcome).map Verdict.side? = .ok none := by
  rw [fallback, htieBreaker]
  cases hlast : settings.strategies.getLast? with
  | none => rfl
  | some strategy => exact Comparison.map_side?_of_not_stops (h _ (List.mem_of_getLast? hlast))

/-- Nobody decides in the rows that differ, and their last verdicts are alike in that. -/
theorem map_side?_outcome_withoutRepeats :
    (settings.withoutRepeats.comparison source left right).outcome.map Verdict.side? =
      (settings.comparison source left right).outcome.map Verdict.side? := by
  by_cases htieBreaker : settings.tieBreaker = none
  · rw [outcome_withoutRepeats, outcome_comparison]
    cases hfirst : settings.strategies.find? fun strategy =>
        Comparison.stops (outcomeOf source left right strategy) with
    | some strategy => rfl
    | none =>
        have hgoes : ∀ strategy ∈ settings.strategies,
            Comparison.stops (outcomeOf source left right strategy) = false := by
          simpa using hfirst
        have hkept : ∀ strategy ∈ settings.withoutRepeats.strategies,
            Comparison.stops (outcomeOf source left right strategy) = false :=
          fun strategy hmem => hgoes strategy (List.mem_eraseDups.mp hmem)
        exact (settings.withoutRepeats.map_side?_fallback htieBreaker hkept).trans
          (settings.map_side?_fallback htieBreaker hgoes).symm
  · rw [outcome_withoutRepeats_of_tieBreaker _ _ _ _ htieBreaker]

end Settings

/--
The chain of settings answers as the first listed strategy that decides, else as the tie breaker,
and without one as the last strategy; the chain of the default settings is the standard one.
Leaving out repeated strategies keeps the side that is preferred and every choice, and with a tie
breaker every answer.
-/
theorem Settings.comparison_exact (settings : Settings) :
    (∀ source left right, left.InRangeFor source → right.InRangeFor source →
      (∀ strategy : Strategy, (strategy.criterion.comparison source left right).outcome =
        .ok (strategy.verdict source left right)) ∧
      (settings.comparison source left right).outcome =
        .ok (settings.verdictOf (Strategy.verdict source left right))) ∧
    ({} : Settings).chain = Chain.standard ∧
    (∀ source left right side,
      (settings.withoutRepeats.comparison source left right).outcome = .ok (.favouring side) ↔
        (settings.comparison source left right).outcome = .ok (.favouring side)) ∧
    (settings.tieBreaker ≠ none → ∀ source left right,
      (settings.withoutRepeats.comparison source left right).outcome =
        (settings.comparison source left right).outcome) ∧
    ∀ source candidates,
      (choose settings.withoutRepeats.comparison source candidates).outcome =
        (choose settings.comparison source candidates).outcome := by
  refine ⟨?_, chain_default, ?_, ?_, ?_⟩
  · intro source left right hleft hright
    exact ⟨Strategy.outcome_criterion hleft hright,
      settings.outcome_comparison_of_inRangeFor source left right hleft hright⟩
  · intro source left right side
    rw [← Comparison.map_side?_eq_some_iff, map_side?_outcome_withoutRepeats,
      Comparison.map_side?_eq_some_iff]
  · exact fun htieBreaker source left right =>
      settings.outcome_withoutRepeats_of_tieBreaker source left right htieBreaker
  · intro source candidates
    exact outcome_choose_congr fun left _ right _ =>
      settings.map_side?_outcome_withoutRepeats source left right

/-- The argument types are asked once more after the arity, and they come last. -/
def Settings.repeating (tieBreaker : Option Side) : Settings :=
  ⟨[.argumentTypes, .arity, .argumentTypes], tieBreaker⟩

/-- Of two different arities the greater one decides; of the same ones nobody does. -/
theorem Settings.comparison_exact_repeating :
    ((repeating none).comparison (ofArity 0).target (ofArity 2) (ofArity 1)).outcome =
        .ok .left ∧
      ((repeating none).comparison (ofArity 0).target (ofArity 2) (ofArity 2)).outcome =
        .ok .unknown ∧
      ((repeating (some .right)).withoutRepeats.comparison (ofArity 0).target (ofArity 2)
        (ofArity 2)).outcome = .ok .right := by
  have hanswers := (comparison_exact (repeating none)).1 (ofArity 0).target
  refine ⟨?_, ?_, (comparison_exact (repeating (some .right))).2.2.2.1 (by decide) _ _ _⟩
  · exact (hanswers (ofArity 2) (ofArity 1) (by decide) (by decide)).2
  · exact (hanswers (ofArity 2) (ofArity 2) (by decide) (by decide)).2

/-- Without the repeat the arity comes last, and it ties. -/
example :
    ((Settings.repeating none).withoutRepeats.comparison (ofArity 0).target (ofArity 2)
      (ofArity 2)).outcome = .ok .ambiguous := rfl

end Delegation
