import Delegation.Proofs.ArgumentTypes
import Delegation.Proofs.Assignability
import Mathlib.Data.List.Basic

/-!
# Exchanging the candidates

Exchanging the two candidates swaps the verdict of a resolver that favours no
side.  Two class types of different names that are assignable to each other
are the exception: the owners of targets are asked in one order and argument
types in the other, so both sides of such a pair are preferred alike.  Where
no such pair is compared, every criterion swaps, and so does every chain.
-/

namespace Delegation

/-- Different names that are assignable to each other, as two copies of one name may bring about. -/
def ClassType.Interchangeable (first second : ClassType) : Prop :=
  first.name ≠ second.name ∧ first.assignableFrom second = true ∧
    second.assignableFrom first = true

instance (first second : ClassType) : Decidable (first.Interchangeable second) :=
  inferInstanceAs (Decidable (_ ∧ _ ∧ _))

/-- Neither the owners nor the types at a shared position of the source are interchangeable. -/
structure Candidate.Discernible (left : Candidate) (source : Method) (right : Candidate) :
    Prop where
  owners : ¬ left.target.owner.Interchangeable right.target.owner
  types : ∀ position < source.arity, ∀ leftType rightType,
    left.typeAt? position = some (.reference leftType) →
      right.typeAt? position = some (.reference rightType) →
        ¬ leftType.Interchangeable rightType

/-! ## Single comparisons -/

theorem Comparison.preferGreater_swap {Key : Type} [LT Key] [DecidableLT Key]
    (hasymm : ∀ first second : Key, first < second → ¬ second < first) (left right : Key) :
    preferGreater left right = (preferGreater right left).swap := by
  unfold preferGreater
  by_cases hright : right < left
  · have hleft := hasymm right left hright
    simp [hright, hleft, Verdict.swap]
  · by_cases hleft : left < right <;> simp [hright, hleft, Verdict.swap]

theorem ClassType.beq_comm (first second : ClassType) : (first == second) = (second == first) := by
  rw [Bool.eq_iff_iff, beq_iff_name_eq, beq_iff_name_eq, eq_comm]

/-- Owners and argument types are weighed alike but for the order of the two questions. -/
theorem ParamType.compareClasses_eq_swap_weighOwners (left right : ClassType) :
    compareClasses left right = (Comparison.weighOwners right left).swap := by
  rw [compareClasses, Comparison.weighOwners, ClassType.beq_comm right left]
  unfold ClassType.assignableTo
  split
  · rfl
  · split
    · rfl
    · split <;> rfl

theorem ParamType.compareClasses_swap {left right : ClassType}
    (h : ¬ left.Interchangeable right) :
    compareClasses left right = (compareClasses right left).swap := by
  cases hsame : left == right with
  | true => simp [compareClasses, ClassType.beq_comm right left, hsame, Verdict.swap]
  | false =>
      have hname : left.name ≠ right.name := by
        rw [← Bool.not_eq_true, ClassType.beq_iff_name_eq] at hsame
        exact hsame
      have hnotBoth : ¬ (left.assignableFrom right = true ∧ right.assignableFrom left = true) :=
        fun hboth => h ⟨hname, hboth⟩
      simp only [compareClasses, ClassType.beq_comm right left, hsame]
      cases hup : right.assignableFrom left <;> cases hdown : left.assignableFrom right <;>
        simp_all [Verdict.swap]

theorem Comparison.weighOwners_swap {left right : ClassType}
    (h : ¬ left.Interchangeable right) :
    weighOwners left right = (weighOwners right left).swap := by
  have hclasses := ParamType.compareClasses_swap h
  rw [ParamType.compareClasses_eq_swap_weighOwners right left, Verdict.swap_swap] at hclasses
  rw [← hclasses, ParamType.compareClasses_eq_swap_weighOwners]

/-! ## Owners against argument types -/

/-- Of interchangeable classes the right one as an owner and the left one as an argument wins. -/
theorem ClassType.Interchangeable.weighed {left right : ClassType}
    (h : left.Interchangeable right) :
    Comparison.weighOwners left right = .right ∧ ParamType.compareClasses left right = .left := by
  obtain ⟨hname, hdown, hup⟩ := h
  have hsame : (left == right) = false := by
    rwa [← Bool.not_eq_true, beq_iff_name_eq]
  simp [Comparison.weighOwners, ParamType.compareClasses, hsame, hdown, hup]

theorem ClassType.Interchangeable.symm {left right : ClassType}
    (h : left.Interchangeable right) : right.Interchangeable left :=
  ⟨h.1.symm, h.2.2, h.2.1⟩

/-- The two ways to weigh classes differ in no more than the order of their questions. -/
theorem Comparison.weighOwners_eq_compareClasses_iff {left right : ClassType} :
    weighOwners left right = ParamType.compareClasses left right ↔
      ¬ left.Interchangeable right := by
  constructor
  · intro hsame h
    rw [h.weighed.1, h.weighed.2] at hsame
    cases hsame
  · intro h
    rw [ParamType.compareClasses_swap h, ParamType.compareClasses_eq_swap_weighOwners,
      Verdict.swap_swap]

/--
Owners are weighed like arguments of their types, whatever the source passes, exactly if they are
not interchangeable.  If they are, and only then, the argument on the left is preferred and the
owner on the right, in either order of the two.
-/
theorem Criterion.owner_agrees_with_argument (source : Method) (type : ParamType)
    (left right : Candidate) :
    ((owner.comparison source left right).outcome = .ok (ParamType.compare type
        (.reference left.target.owner) (.reference right.target.owner)) ↔
      ¬ left.target.owner.Interchangeable right.target.owner) ∧
    (left.target.owner.Interchangeable right.target.owner ↔
      ParamType.compare type (.reference left.target.owner)
          (.reference right.target.owner) = .left ∧
        (owner.comparison source left right).outcome = .ok .right) ∧
    (left.target.owner.Interchangeable right.target.owner ↔
      ParamType.compare type (.reference left.target.owner)
          (.reference right.target.owner) = .left ∧
        ParamType.compare type (.reference right.target.owner)
          (.reference left.target.owner) = .left) ∧
    (left.target.owner.Interchangeable right.target.owner ↔
      (owner.comparison source left right).outcome = .ok .right ∧
        (owner.comparison source right left).outcome = .ok .right) := by
  have houtcome : ∀ left right : Candidate, (owner.comparison source left right).outcome =
      .ok (Comparison.weighOwners left.target.owner right.target.owner) := fun _ _ => rfl
  have hcompare : ∀ left right : ClassType, ParamType.compare type (.reference left)
      (.reference right) = ParamType.compareClasses left right := fun _ _ => rfl
  simp only [houtcome, hcompare, Except.ok.injEq]
  refine ⟨Comparison.weighOwners_eq_compareClasses_iff, ⟨?_, ?_⟩, ⟨?_, ?_⟩, ⟨?_, ?_⟩⟩
  · intro h
    exact ⟨h.weighed.2, h.weighed.1⟩
  · rintro ⟨hclasses, howners⟩
    by_contra h
    rw [Comparison.weighOwners_eq_compareClasses_iff.mpr h, hclasses] at howners
    cases howners
  · intro h
    exact ⟨h.weighed.2, h.symm.weighed.2⟩
  · rintro ⟨hforth, hback⟩
    by_contra h
    rw [ParamType.compareClasses_swap h, hback] at hforth
    cases hforth
  · intro h
    exact ⟨h.weighed.1, h.symm.weighed.1⟩
  · rintro ⟨hforth, hback⟩
    by_contra h
    rw [Comparison.weighOwners_swap h, hback] at hforth
    cases hforth

/-- Two classes become interchangeable when each is declared below a copy of the other's name. -/
example :
    let first : ClassType := { name := "a.First", interfaces := [{ name := "a.Second" }] }
    let second : ClassType := { name := "a.Second", interfaces := [{ name := "a.First" }] }
    first.Interchangeable second ∧ Comparison.weighOwners first second = .right ∧
      ParamType.compareClasses first second = .left := by
  decide

/-! ## Types of parameters -/

theorem Primitive.compare_swap (left right : Primitive) :
    left.compare right = (right.compare left).swap := by
  by_cases hsame : left = right
  · simp [Primitive.compare, hsame, Verdict.swap]
  · have hrank : left.rank ≠ right.rank := fun hrank => hsame (rank_injective hrank)
    simp only [Primitive.compare, isMoreSpecific, hsame, Ne.symm hsame, if_false,
      decide_eq_true_eq]
    by_cases hlt : left.rank < right.rank
    · simp [hlt, Nat.not_lt.mpr (Nat.le_of_lt hlt), Verdict.swap]
    · have hgt : right.rank < left.rank := by omega
      simp [hlt, hgt, Verdict.swap]

theorem ParamType.compare_swap (source : ParamType) {left right : ParamType}
    (h : ∀ leftType rightType, left = .reference leftType → right = .reference rightType →
      ¬ leftType.Interchangeable rightType) :
    compare source left right = (compare source right left).swap := by
  cases left with
  | primitive leftKind =>
      cases right with
      | primitive rightKind => exact Primitive.compare_swap leftKind rightKind
      | reference rightType =>
          simp only [compare]
          cases source.isPrimitive <;> rfl
  | reference leftType =>
      cases right with
      | primitive rightKind =>
          simp only [compare]
          cases source.isPrimitive <;> rfl
      | reference rightType =>
          exact compareClasses_swap (h leftType rightType rfl rfl)

/-! ## Argument types -/

namespace Comparison

theorem weighPosition_swap {left right : Candidate} (source : ParamType) {position : Nat}
    (h : ∀ leftType rightType, left.typeAt? position = some (.reference leftType) →
      right.typeAt? position = some (.reference rightType) →
        ¬ leftType.Interchangeable rightType) :
    weighPosition left right source position =
      (weighPosition right left source position).map Verdict.swap := by
  unfold weighPosition
  cases hleft : left.typeAt? position with
  | none => cases right.typeAt? position <;> rfl
  | some leftType =>
      cases hright : right.typeAt? position with
      | none => rfl
      | some rightType =>
          refine congrArg some (ParamType.compare_swap source ?_)
          rintro leftClass rightClass rfl rfl
          exact h leftClass rightClass hleft hright

theorem sharedVerdicts_swap {source : Method} {left right : Candidate}
    (h : left.Discernible source right) :
    sharedVerdicts source left right = (sharedVerdicts source right left).map Verdict.swap := by
  unfold sharedVerdicts
  rw [List.map_filterMap]
  apply List.filterMap_congr
  rintro ⟨type, position⟩ hmem
  have hposition := Method.lt_arity_of_mem_zipIdx hmem
  exact weighPosition_swap type (h.types position hposition)

end Comparison

/-! ## Criteria and resolvers -/

section

variable {source : Method} {left right : Candidate}

theorem Criterion.outcome_swap {criterion : Criterion}
    (hundirected : ∀ side, criterion ≠ .favour side) (hleft : left.InRange)
    (hright : right.InRange) (h : left.Discernible source right) :
    (criterion.comparison source left right).outcome =
      (criterion.comparison source right left).outcome.map Verdict.swap := by
  cases criterion with
  | priority =>
      exact congrArg Except.ok (Comparison.preferGreater_swap (fun _ _ => by omega) _ _)
  | owner => exact congrArg Except.ok (Comparison.weighOwners_swap h.owners)
  | argumentTypes =>
      rw [comparison, Comparison.outcome_argumentTypes hleft hright,
        Comparison.outcome_argumentTypes hright hleft, Comparison.sharedVerdicts_swap h,
        ← Verdict.swap_joinAll]
      rfl
  | name => exact congrArg Except.ok (Comparison.preferGreater_swap (by decide) _ _)
  | arity =>
      exact congrArg Except.ok (Comparison.preferGreater_swap (fun _ _ => by omega) _ _)
  | favour side => exact absurd rfl (hundirected side)
  | abstain => rfl

theorem Resolver.outcome_swap {Leaf : Type} {interpret : Leaf → Comparison}
    (resolver : Resolver Leaf)
    (h : ∀ leaf ∈ resolver.leaves, (interpret leaf source left right).outcome =
      (interpret leaf source right left).outcome.map Verdict.swap) :
    (resolver.comparison interpret source left right).outcome =
      (resolver.comparison interpret source right left).outcome.map Verdict.swap := by
  induction resolver with
  | single leaf => exact h leaf (by simp [leaves])
  | chain members ih =>
      have hmembers : (members.map fun member =>
          (member.comparison interpret source left right).outcome) =
          (members.map fun member =>
            (member.comparison interpret source right left).outcome).map
              (Except.map Verdict.swap) := by
        rw [List.map_map]
        apply List.map_congr_left
        intro member hmember
        exact ih member hmember fun leaf hleaf =>
          h leaf (mem_leaves_chain.mpr ⟨member, hmember, hleaf⟩)
      rw [outcome_chain, outcome_chain, hmembers]
      exact Comparison.settleInTurn_map_swap .unknown _

def Resolver.Undirected (resolver : Resolver Criterion) : Prop :=
  ∀ side, Criterion.favour side ∉ resolver.leaves

/-- Every resolver that favours no side answers, and swaps its answer with the candidates. -/
theorem Resolver.Undirected.answer_swap {resolver : Resolver Criterion}
    (hresolver : resolver.Undirected) (hleft : left.InRange) (hright : right.InRange)
    (h : left.Discernible source right) :
    ∃ verdict, (resolver.comparison Criterion.comparison source right left).outcome = .ok verdict ∧
      (resolver.comparison Criterion.comparison source left right).outcome = .ok verdict.swap := by
  have hleaves : ∀ leaf ∈ resolver.leaves, leaf.comparison.Answers source right left :=
    fun leaf _ => leaf.answers hright hleft source
  obtain ⟨verdict, hverdict⟩ := resolver.answers_of_leaves hleaves
  refine ⟨verdict, hverdict, ?_⟩
  rw [resolver.outcome_swap, hverdict]
  · rfl
  · intro leaf hleaf
    refine leaf.outcome_swap ?_ hleft hright h
    rintro side rfl
    exact hresolver side hleaf

end

def narrowMethod : Method :=
  { owner := .integer, name := "add", parameters := [.reference .integer, .primitive .int] }

def wideMethod : Method :=
  { owner := .number, name := "add", parameters := [.reference .number, .primitive .long] }

def nestedResolver : Resolver Criterion :=
  .chain [.single .priority, .chain [.single .argumentTypes, .chain [.single .owner]],
    .single .abstain]

theorem discernible_narrow_wide :
    (Binding.identity narrowMethod).candidate.Discernible narrowMethod
      (Binding.identity wideMethod).candidate where
  owners := by decide
  types := by
    intro position hposition leftType rightType hleft hright
    have hcases : position = 0 ∨ position = 1 := by
      have hlt : position < 2 := hposition
      omega
    rcases hcases with rfl | rfl
    · have hinteger : some (ParamType.reference .integer) = some (.reference leftType) := hleft
      have hnumber : some (ParamType.reference .number) = some (.reference rightType) := hright
      cases hinteger
      cases hnumber
      decide
    · have hprimitive : some (ParamType.primitive .int) = some (.reference leftType) := hleft
      cases hprimitive

theorem answer_swap_nested :
    nestedResolver.Undirected ∧
      ∃ verdict,
        (nestedResolver.comparison Criterion.comparison narrowMethod
          (Binding.identity wideMethod).candidate
          (Binding.identity narrowMethod).candidate).outcome = .ok verdict ∧
        (nestedResolver.comparison Criterion.comparison narrowMethod
          (Binding.identity narrowMethod).candidate
          (Binding.identity wideMethod).candidate).outcome = .ok verdict.swap := by
  have hundirected : nestedResolver.Undirected := by
    intro side
    simp [nestedResolver, Resolver.leaves, Resolver.leavesOfAll]
  exact ⟨hundirected, hundirected.answer_swap (Binding.inRange_identity narrowMethod)
    (Binding.inRange_identity wideMethod) discernible_narrow_wide⟩

end Delegation
