import Delegation.Proofs.Trails
import Delegation.Proofs.Transcripts

/-!
# Questions to the candidates

The comparison of argument types asks both candidates about one position after
the other, up to the first at which a route leads astray, and no other
criterion asks anything.  So a resolver asks about all positions of the source
once for every comparison of argument types that it reaches, and a failing one
asks about the positions up to the failure only.
-/

namespace Delegation

namespace Inquiry

variable {α : Type}

def positionAsked? (side : Side) : Observation → Option Nat
  | .asked asked position _ => if asked = side then some position else none
  | _ => none

def positionsAsked (inquiry : Inquiry α) (side : Side) : List Nat :=
  (inquiry.askedOf side).map Prod.fst

theorem positionsAsked_eq_seen (inquiry : Inquiry α) (side : Side) :
    inquiry.positionsAsked side = inquiry.seen (positionAsked? side) := by
  rw [positionsAsked, askedOf, seen, List.map_filterMap]
  apply List.filterMap_congr
  intro observation _
  cases observation with
  | asked asked position answer => by_cases h : asked = side <;> simp [positionAsked?, h]
  | readTarget read => rfl
  | logged entry => rfl

theorem positionAsked?_of_isQuestion_eq_false {observation : Observation}
    (h : observation.isQuestion = false) (side : Side) :
    positionAsked? side observation = none := by
  cases observation with
  | asked asked position answer => cases h
  | readTarget read => rfl
  | logged entry => rfl

end Inquiry

open Inquiry

variable {source : Method} {left right : Candidate}

/-! ## Argument types -/

namespace Comparison

theorem seen_comparePosition (left right : Candidate) (type : ParamType) (position : Nat)
    (side : Side) :
    (comparePosition left right type position).seen (positionAsked? side) = [position] := by
  obtain ⟨rest, htrail, hrest⟩ := exists_trail_comparePosition left right type position
  have hnone : rest.filterMap (positionAsked? side) = [] :=
    List.filterMap_eq_nil_iff.mpr fun observation hmem =>
      positionAsked?_of_isQuestion_eq_false (hrest observation hmem) side
  rw [seen, htrail]
  cases side <;> simp [positionAsked?, hnone]

/-- The positions asked about are those up to the first at which a route leads astray. -/
theorem seen_argumentTypes (source : Method) (left right : Candidate) (side : Side) :
    (argumentTypes source left right).seen (positionAsked? side) =
      upTo (fun position => decide (AstrayAt left right position))
        (List.range source.arity) := by
  have hastray : ∀ position, (missingAt? left right position).isSome =
      decide (AstrayAt left right position) := by
    intro position
    rw [Bool.eq_iff_iff, isSome_missingAt?_iff, decide_eq_true_iff]
  rw [argumentTypes, seen_bind_pure, seen_mapM, ← source.map_snd_zipIdx_parameters, upTo_map]
  simp only [missing?_comparePosition, seen_comparePosition, hastray]
  exact List.flatMap_pure_eq_map Prod.snd _

end Comparison

/-! ## Resolvers -/

theorem flatMap_of_block {α β : Type} [DecidableEq α] {parts : α → List β} {chosen : α}
    (h : ∀ item, item ≠ chosen → parts item = []) (items : List α) :
    items.flatMap parts = (List.replicate (items.count chosen) (parts chosen)).flatten := by
  induction items with
  | nil => rfl
  | cons item items ih =>
      rw [List.flatMap_cons, ih]
      by_cases hitem : item = chosen
      · rw [hitem, List.count_cons_self, List.replicate_succ, List.flatten_cons]
      · rw [h item hitem, List.count_cons_of_ne hitem, List.nil_append]

namespace Resolver

section

variable {Leaf : Type} {interpret : Leaf → Comparison} {resolver : Resolver Leaf}

variable {verdict : Verdict}
  (h : (resolver.comparison interpret source left right).outcome = .ok verdict)

include h

theorem answers_of_asked {leaf : Leaf}
    (hleaf : leaf ∈ upTo (fun leaf => Comparison.stops (interpret leaf source left right).outcome)
      resolver.leaves) :
    (interpret leaf).Answers source left right := by
  cases houtcome : (interpret leaf source left right).outcome with
  | ok answer => exact ⟨answer, houtcome⟩
  | error missing =>
      have hfirst := find?_eq_some_of_mem_upTo hleaf (by rw [houtcome]; rfl)
      rw [outcome_eq_error_iff_find?.mpr ⟨leaf, hfirst, houtcome⟩] at h
      cases h

theorem upTo_stops_of_ok :
    upTo (fun leaf => Comparison.stops (interpret leaf source left right).outcome)
        resolver.leaves =
      upTo (fun leaf => ((interpret leaf).verdict source left right).isDecided)
        resolver.leaves := by
  apply upTo_congr
  intro leaf hleaf
  rw [(answers_of_asked h hleaf).outcome_eq, Comparison.stops]

end

theorem positionsAsked_eq (resolver : Resolver Criterion) (side : Side) :
    (resolver.comparison Criterion.comparison source left right).positionsAsked side =
      (List.replicate
        ((upTo (fun leaf => Comparison.stops (leaf.comparison source left right).outcome)
          resolver.leaves).count .argumentTypes)
        (upTo (fun position => decide (Comparison.AstrayAt left right position))
          (List.range source.arity))).flatten := by
  rw [positionsAsked_eq_seen, resolver.seen_leaves fun _ => rfl,
    flatMap_of_block fun leaf hleaf => Criterion.seen_of_ne_argumentTypes (fun _ => rfl) hleaf]
  exact congrArg _ (congrArg _ (Comparison.seen_argumentTypes source left right side))

theorem positionsAsked_of_ok {resolver : Resolver Criterion} {verdict : Verdict}
    (h : (resolver.comparison Criterion.comparison source left right).outcome = .ok verdict)
    (side : Side) :
    (resolver.comparison Criterion.comparison source left right).positionsAsked side =
      (List.replicate
        ((upTo (fun leaf => (leaf.comparison.verdict source left right).isDecided)
          resolver.leaves).count .argumentTypes)
        (List.range source.arity)).flatten := by
  rw [positionsAsked_eq]
  by_cases hasked : Criterion.argumentTypes ∈
      upTo (fun leaf => Comparison.stops (leaf.comparison source left right).outcome)
        resolver.leaves
  · obtain ⟨answer, hanswer⟩ := answers_of_asked h hasked
    have hnowhere : ∀ position < source.arity, ¬ Comparison.AstrayAt left right position := by
      intro position hposition hastray
      obtain ⟨missing, hmissing⟩ :=
        Comparison.argumentTypes_missing_iff.mpr ⟨position, hposition, hastray⟩
      cases hanswer.symm.trans hmissing
    have hall : upTo (fun position => decide (Comparison.AstrayAt left right position))
        (List.range source.arity) = List.range source.arity :=
      upTo_eq_self (by simpa using hnowhere)
    rw [hall, upTo_stops_of_ok h]
  · rw [List.count_eq_zero_of_not_mem hasked, ← upTo_stops_of_ok h,
      List.count_eq_zero_of_not_mem hasked]
    rfl

theorem positionsAsked_of_error {resolver : Resolver Criterion} {missing : MissingParameter}
    (h : (resolver.comparison Criterion.comparison source left right).outcome =
      .error missing) :
    ∃ position < source.arity, Comparison.missingAt? left right position = some missing ∧
      (∀ earlier < position, ¬ Comparison.AstrayAt left right earlier) ∧
      ∀ side, (resolver.comparison Criterion.comparison source left right).positionsAsked side =
        List.range (position + 1) := by
  obtain ⟨leaf, hfirst, hleaf⟩ := outcome_eq_error_iff_find?.mp h
  obtain rfl := Criterion.eq_argumentTypes_of_error hleaf
  have hmissing : (Comparison.argumentTypes source left right).missing? = some missing :=
    missing?_eq_some_iff.mpr hleaf
  rw [Comparison.missing?_argumentTypes, findSome?_range_eq_some_iff] at hmissing
  obtain ⟨position, hlt, hat, hearlier⟩ := hmissing
  have hastray : ∀ other, Comparison.AstrayAt left right other ↔
      (Comparison.missingAt? left right other).isSome := fun other =>
    Comparison.isSome_missingAt?_iff.symm
  have hnotEarlier : ∀ earlier < position, ¬ Comparison.AstrayAt left right earlier := by
    intro earlier hlt
    simp [hastray, hearlier earlier hlt]
  refine ⟨position, hlt, hat, hnotEarlier, fun side => ?_⟩
  rw [positionsAsked_eq, count_upTo hfirst, List.replicate_one, List.flatten_singleton,
    upTo_range hlt]
  · simp [hastray, hat]
  · simpa using hnotEarlier

theorem lt_of_mem_positionsAsked {resolver : Resolver Criterion} {side : Side} {position : Nat}
    (h : position ∈
      (resolver.comparison Criterion.comparison source left right).positionsAsked side) :
    position < source.arity := by
  rw [positionsAsked_eq, List.mem_flatten] at h
  obtain ⟨asked, hasked, hposition⟩ := h
  rw [List.eq_of_mem_replicate hasked] at hposition
  exact List.mem_range.mp (mem_of_mem_upTo hposition)

theorem askedOf_eq_nil {resolver : Resolver Criterion} (h : .argumentTypes ∉ resolver.leaves)
    (side : Side) :
    (resolver.comparison Criterion.comparison source left right).askedOf side = [] := by
  rw [← List.map_eq_nil_iff (f := Prod.fst), ← positionsAsked, positionsAsked_eq,
    List.count_eq_zero_of_not_mem fun hasked => h (mem_of_mem_upTo hasked)]
  rfl

/--
A resolver asks both candidates about the same positions.  These are all positions of the source
for each comparison of argument types up to the first leaf that prefers a side, or those up to the
first that leads astray if the resolver fails there.
-/
theorem positionsAsked_exact (resolver : Resolver Criterion) (source : Method)
    (left right : Candidate) :
    let run := resolver.comparison Criterion.comparison source left right
    run.positionsAsked .left = run.positionsAsked .right ∧
    (∀ verdict, run.outcome = .ok verdict → ∀ side, run.positionsAsked side =
      (List.replicate
        ((upTo (fun leaf => (leaf.comparison.verdict source left right).isDecided)
          resolver.leaves).count .argumentTypes)
        (List.range source.arity)).flatten) ∧
    (∀ missing, run.outcome = .error missing → ∃ position < source.arity,
      Comparison.missingAt? left right position = some missing ∧
        (∀ earlier < position, ¬ Comparison.AstrayAt left right earlier) ∧
        ∀ side, run.positionsAsked side = List.range (position + 1)) ∧
    (∀ side, ∀ position ∈ run.positionsAsked side, position < source.arity) ∧
    (.argumentTypes ∉ resolver.leaves → ∀ side, run.askedOf side = []) := by
  intro run
  refine ⟨?_, ?_, ?_, ?_, ?_⟩
  · rw [resolver.positionsAsked_eq, resolver.positionsAsked_eq]
  · intro verdict hverdict side
    exact positionsAsked_of_ok hverdict side
  · intro missing hmissing
    exact positionsAsked_of_error hmissing
  · intro side position hposition
    exact lt_of_mem_positionsAsked hposition
  · intro hnone side
    exact askedOf_eq_nil hnone side

end Resolver

namespace Comparison

/-- Asks for argument types in vain, once more inside, and not again after the name has decided. -/
def asksTwice : Resolver Criterion :=
  .chain [.single .argumentTypes, .chain [.single .abstain, .single .argumentTypes],
    .single .name, .single .argumentTypes]

def namesake : Candidate :=
  { crossing with target := { crossing.target with name := "receive" } }

theorem positionsAsked_exact_nested :
    (asksTwice.comparison Criterion.comparison receiving crossing namesake).outcome =
        .ok .right ∧
      (asksTwice.comparison Criterion.comparison receiving crossing
        namesake).positionsAsked .left = [0, 1, 2, 0, 1, 2] ∧
      (∃ missing, (asksTwice.comparison Criterion.comparison receiving straying
        overreaching).outcome = .error missing) ∧
      (asksTwice.comparison Criterion.comparison receiving straying
        overreaching).positionsAsked .right = [0, 1] := by
  have hdecided := asksTwice.positionsAsked_exact receiving crossing namesake
  have hfailed := asksTwice.positionsAsked_exact receiving straying overreaching
  have hmissing : (asksTwice.comparison Criterion.comparison receiving straying
      overreaching).outcome = .error ⟨9, straying.target⟩ := rfl
  obtain ⟨position, -, hat, hfirst, hasked⟩ := hfailed.2.2.1 _ hmissing
  have hle : position ≤ 1 := by
    by_contra hlt
    exact hfirst 1 (by omega) (by decide)
  have hne : position ≠ 0 := by
    rintro rfl
    cases hat
  obtain rfl : position = 1 := by omega
  exact ⟨rfl, hdecided.2.1 .right rfl .left, ⟨_, hmissing⟩, hasked .right⟩

end Comparison

end Delegation
