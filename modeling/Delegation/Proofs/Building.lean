import Delegation.Proofs.ArgumentTypes
import Delegation.Proofs.Routes
import Delegation.Proofs.Trails
import Delegation.Proofs.Unbeaten

/-!
# Built bindings

Every route that a binding was built from leads to a parameter of its target,
since `Binding.addRoute` lets no other one in.  The comparison of two built
bindings therefore always ends in a verdict, and so does every choice among
built bindings, also for source positions that the source does not have.
-/

namespace Delegation

/-! ## Routes of built bindings -/

namespace Binding

/-- The routes of the binding were added one by one. -/
def Built (binding : Binding) : Prop :=
  ∃ target routes, ofRoutes target routes = .ok binding

theorem RoutesInRange.inRange {binding : Binding} (h : binding.RoutesInRange) :
    binding.candidate.InRange :=
  fun _ _ hroute => h _ (mem_routes_of_lookup hroute)

theorem Built.inRange {binding : Binding} (h : binding.Built) : binding.candidate.InRange := by
  obtain ⟨target, routes, hadded⟩ := h
  obtain ⟨hroutes, rfl⟩ := ofRoutes_eq_ok_iff.mp hadded
  exact RoutesInRange.inRange hroutes.inRange

theorem inRange_of_built {bindings : List Binding} (h : ∀ binding ∈ bindings, binding.Built) :
    ∀ candidate ∈ bindings.map Binding.candidate, candidate.InRange := by
  intro candidate hcandidate
  obtain ⟨binding, hbinding, rfl⟩ := List.mem_map.mp hcandidate
  exact (h binding hbinding).inRange

def straightRoutes (count : Nat) : List (Nat × Nat) :=
  (List.range count).map fun position => (position, position)

theorem admissible_straightRoutes {target : Method} {count : Nat} (h : count ≤ target.arity) :
    Admissible target (straightRoutes count) where
  inRange route hroute := by
    obtain ⟨position, hposition, rfl⟩ := List.mem_map.mp hroute
    exact Nat.lt_of_lt_of_le (List.mem_range.mp hposition) h
  nodup := by
    have hsources : (straightRoutes count).map Prod.fst = List.range count := by
      simp [straightRoutes, Function.comp_def]
    rw [hsources]
    exact List.nodup_range

theorem built_identity (target : Method) : (identity target).Built :=
  ⟨target, _, ofRoutes_of_admissible (admissible_straightRoutes (Nat.le_refl _))⟩

end Binding

/-! ## Runs over built bindings -/

/-- No parameter that the run reads is missing, be it of a target or of the source. -/
structure Inquiry.FindsParameters {α : Type} (run : Inquiry α) (source : Method) : Prop where
  targets : ∃ value, run.outcome = .ok value
  source : ∀ side position answer, (position, answer) ∈ run.askedOf side →
    ∃ type, source.parameter position = .ok type

theorem Inquiry.findsParameters_of_staysWithin {α : Type} {run : Inquiry α} {source : Method}
    (houtcome : ∃ value, run.outcome = .ok value)
    (hstays : run.StaysWithin (Observation.Concerns source)) : run.FindsParameters source where
  targets := houtcome
  source := by
    intro side position answer hasked
    exact Method.exists_parameter_of_lt (hstays _ (mem_askedOf_iff.mp hasked))

namespace Resolver

theorem answers_of_inRange (resolver : Resolver Criterion) {left right : Candidate}
    (hleft : left.InRange) (hright : right.InRange) (source : Method) :
    (resolver.comparison Criterion.comparison).Answers source left right :=
  resolver.answers_of_leaves fun leaf _ => leaf.answers hleft hright source

theorem staysWithin_concerns (resolver : Resolver Criterion) (source : Method)
    (left right : Candidate) :
    (resolver.comparison Criterion.comparison source left right).StaysWithin
      (Observation.Concerns source) :=
  resolver.staysWithin (fun _ => trivial) fun leaf _ => leaf.staysWithin

/-- Comparisons of built bindings, and choices among them, find every parameter they read. -/
theorem findsParameters_of_built (resolver : Resolver Criterion) (source : Method)
    (bindings : List Binding) (h : ∀ binding ∈ bindings, binding.Built) :
    (∀ left ∈ bindings, ∀ right ∈ bindings,
      (resolver.comparison Criterion.comparison source left.candidate
        right.candidate).FindsParameters source) ∧
    (choose (resolver.comparison Criterion.comparison) source
      (bindings.map Binding.candidate)).FindsParameters source := by
  have hinRange := Binding.inRange_of_built h
  constructor
  · intro left hleft right hright
    exact Inquiry.findsParameters_of_staysWithin
      (resolver.answers_of_inRange (h left hleft).inRange (h right hright).inRange source)
      (resolver.staysWithin_concerns source _ _)
  · have hanswers : ∀ left ∈ bindings.map Binding.candidate,
        ∀ right ∈ bindings.map Binding.candidate,
          (resolver.comparison Criterion.comparison).Answers source left right :=
      fun left hleft right hright =>
        resolver.answers_of_inRange (hinRange left hleft) (hinRange right hright) source
    exact Inquiry.findsParameters_of_staysWithin ⟨_, outcome_choose_of_answers hanswers⟩
      (staysWithin_choose (fun _ => trivial) (resolver.staysWithin_concerns source) _)

end Resolver

/-- Routes from two positions, the second of which a method of two parameters does not have. -/
def crossed : Binding := ⟨pairing, [(1, 0), (7, 1)]⟩

theorem findsParameters_of_built_crossed :
    (∀ binding ∈ [crossed, .identity pairing], binding.Built) ∧
      (choose (Chain.standard.resolver.comparison Criterion.comparison) pairing
        [crossed.candidate, (Binding.identity pairing).candidate]).FindsParameters pairing := by
  have hbuilt : ∀ binding ∈ [crossed, .identity pairing], binding.Built := by
    intro binding hbinding
    simp only [List.mem_cons, List.not_mem_nil, or_false] at hbinding
    rcases hbinding with rfl | rfl
    · exact ⟨pairing, [(1, 0), (7, 1)], rfl⟩
    · exact Binding.built_identity pairing
  exact ⟨hbuilt, (Chain.standard.resolver.findsParameters_of_built pairing _ hbuilt).2⟩

end Delegation
