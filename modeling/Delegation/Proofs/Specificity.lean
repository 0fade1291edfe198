import Delegation.Proofs.Exchange

/-!
# The order of specificity

Over the types of a coherent set `ParamType.compare` is a strict partial order,
which prefers the left type where it is the more specific one.  Primitive kinds
are ordered by their rank and class types by assignability.  Types of the
source's own sort, primitive or class, come before all types of the other sort,
so the two orders are stacked upon each other, and the source tells which one is
below.
-/

namespace Delegation

theorem Primitive.compare_eq_left_iff {left right : Primitive} :
    left.compare right = .left ↔ left.rank < right.rank := by
  by_cases hsame : left = right
  · simp [compare, hsame]
  · simp [compare, hsame, isMoreSpecific]

theorem ClassType.Coherent.not_interchangeable {types : ClassType → Prop}
    (h : Coherent types) {first second : ClassType} (hfirst : types first)
    (hsecond : types second) : ¬ first.Interchangeable second := by
  rintro ⟨hname, hdown, hup⟩
  exact hname (congrArg name (h.assignableFrom_antisymm hfirst hsecond hdown hup))

namespace ParamType

/-- A primitive kind, or a class type of the set. -/
def Within (types : ClassType → Prop) : ParamType → Prop
  | .primitive _ => True
  | .reference type => types type

/-! ## Single shapes -/

theorem compareClasses_eq_left_iff {left right : ClassType} :
    compareClasses left right = .left ↔
      left.name ≠ right.name ∧ right.assignableFrom left = true := by
  unfold compareClasses
  by_cases hname : left.name = right.name
  · simp [ClassType.beq_iff_name_eq, hname]
  · by_cases hup : right.assignableFrom left = true
    · simp [ClassType.beq_iff_name_eq, hname, hup]
    · by_cases hdown : left.assignableFrom right = true <;>
        simp [ClassType.beq_iff_name_eq, hname, hup, hdown]

theorem compare_primitive_reference_eq_left_iff {source : ParamType} {kind : Primitive}
    {type : ClassType} :
    compare source (.primitive kind) (.reference type) = .left ↔ source.isPrimitive = true := by
  cases h : source.isPrimitive <;> simp [compare, h]

theorem compare_reference_primitive_eq_left_iff {source : ParamType} {kind : Primitive}
    {type : ClassType} :
    compare source (.reference type) (.primitive kind) = .left ↔ source.isPrimitive = false := by
  cases h : source.isPrimitive <;> simp [compare, h]

theorem compareClasses_trans {types : ClassType → Prop} (h : ClassType.Coherent types)
    {lower middle upper : ClassType} (hlower : types lower) (hmiddle : types middle)
    (hupper : types upper) (hfirst : compareClasses lower middle = .left)
    (hsecond : compareClasses middle upper = .left) : compareClasses lower upper = .left := by
  rw [compareClasses_eq_left_iff] at hfirst hsecond ⊢
  obtain ⟨hne, hup⟩ := hfirst
  obtain ⟨-, hup'⟩ := hsecond
  refine ⟨?_, h.assignableFrom_trans hlower hmiddle hupper hup hup'⟩
  -- Were the outer names equal, the middle type would be assignable both ways.
  intro hname
  have hsame := h.eq_of_name_eq lower upper hlower hupper hname
  subst hsame
  exact hne (congrArg ClassType.name (h.assignableFrom_antisymm hlower hmiddle hup' hup))

/-! ## All shapes -/

theorem compare_of_beq (source : ParamType) {left right : ParamType} (h : (left == right) = true) :
    compare source left right = .ambiguous := by
  cases left with
  | primitive leftKind =>
      cases right with
      | primitive rightKind =>
          have hkind : (leftKind == rightKind) = true := h
          simp [compare, Primitive.compare, eq_of_beq hkind]
      | reference rightType => cases h
  | reference leftType =>
      cases right with
      | primitive rightKind => cases h
      | reference rightType =>
          have htype : (leftType == rightType) = true := h
          simp [compare, compareClasses, htype]

section

variable {types : ClassType → Prop} (h : ClassType.Coherent types) (source : ParamType)

include h

theorem compare_swap_of_within {left right : ParamType} (hleft : left.Within types)
    (hright : right.Within types) :
    compare source left right = (compare source right left).swap := by
  apply compare_swap
  rintro leftType rightType rfl rfl
  exact h.not_interchangeable hleft hright

theorem compare_trans {first second third : ParamType} (hfirst : first.Within types)
    (hsecond : second.Within types) (hthird : third.Within types)
    (hlower : compare source first second = .left)
    (hupper : compare source second third = .left) : compare source first third = .left := by
  cases first with
  | primitive firstKind =>
      cases third with
      | primitive thirdKind =>
          cases second with
          | primitive secondKind =>
              rw [compare, Primitive.compare_eq_left_iff] at hlower hupper ⊢
              omega
          | reference secondType =>
              rw [compare_primitive_reference_eq_left_iff] at hlower
              rw [compare_reference_primitive_eq_left_iff, hlower] at hupper
              cases hupper
      | reference thirdType =>
          rw [compare_primitive_reference_eq_left_iff]
          cases second with
          | primitive secondKind => exact compare_primitive_reference_eq_left_iff.mp hupper
          | reference secondType => exact compare_primitive_reference_eq_left_iff.mp hlower
  | reference firstType =>
      cases third with
      | primitive thirdKind =>
          rw [compare_reference_primitive_eq_left_iff]
          cases second with
          | primitive secondKind => exact compare_reference_primitive_eq_left_iff.mp hlower
          | reference secondType => exact compare_reference_primitive_eq_left_iff.mp hupper
      | reference thirdType =>
          cases second with
          | primitive secondKind =>
              rw [compare_reference_primitive_eq_left_iff] at hlower
              rw [compare_primitive_reference_eq_left_iff, hlower] at hupper
              cases hupper
          | reference secondType =>
              exact compareClasses_trans h hfirst hsecond hthird hlower hupper

/--
The comparison of types is a strict partial order: its two sides mirror each other, it is
transitive, a type ties with itself, and no two types stay unknown.
-/
theorem compare_strictOrder :
    (∀ left right : ParamType, left.Within types → right.Within types →
      (compare source left right = .left ↔ compare source right left = .right)) ∧
    (∀ first second third : ParamType, first.Within types → second.Within types →
      third.Within types → compare source first second = .left →
        compare source second third = .left → compare source first third = .left) ∧
    (∀ left right : ParamType, left.Within types → right.Within types →
      (left == right) = true → compare source left right = .ambiguous) ∧
    (∀ left right : ParamType, left.Within types → right.Within types →
      compare source left right ≠ .unknown) := by
  refine ⟨?_, ?_, ?_, ?_⟩
  · intro left right hleft hright
    rw [compare_swap_of_within h source hleft hright]
    cases compare source right left <;> decide
  · intro first second third hfirst hsecond hthird
    exact compare_trans h source hfirst hsecond hthird
  · intro left right _ _ hsame
    exact compare_of_beq source hsame
  · intro left right _ _
    exact compare_ne_unknown source left right

end

theorem compare_strictOrder_int :
    compare (.primitive .long) (.primitive .int) (.reference .integer) = .left ∧
      compare (.primitive .long) (.reference .integer) (.reference .serializable) = .left ∧
      compare (.primitive .long) (.primitive .int) (.reference .serializable) = .left := by
  have hlower : compare (.primitive .long) (.primitive .int) (.reference .integer) = .left := rfl
  have hupper : compare (.primitive .long) (.reference .integer) (.reference .serializable) =
      .left := by decide
  have hinteger : (reference .integer).Within
      (· ∈ [.root, .comparable, .serializable, .number, .integer]) := by simp [Within]
  have hserializable : (reference .serializable).Within
      (· ∈ [.root, .comparable, .serializable, .number, .integer]) := by simp [Within]
  exact ⟨hlower, hupper, (compare_strictOrder ClassType.coherent_integer _).2.1
    _ _ _ trivial hinteger hserializable hlower hupper⟩

end ParamType

/-! ## Methods over a coherent set -/

/-- The owner and the parameters of the method are of types of the set. -/
structure Method.Within (method : Method) (types : ClassType → Prop) : Prop where
  owner : types method.owner
  parameters : ∀ type ∈ method.parameters, type.Within types

theorem Candidate.mem_parameters_of_typeAt? {candidate : Candidate} {position : Nat}
    {type : ParamType} (h : candidate.typeAt? position = some type) :
    type ∈ candidate.target.parameters := by
  obtain ⟨target, -, htype⟩ := Option.bind_eq_some_iff.mp h
  exact List.mem_of_getElem? htype

theorem ClassType.Coherent.discernible {types : ClassType → Prop} (h : Coherent types)
    {left right : Candidate} (hleft : left.target.Within types)
    (hright : right.target.Within types) (source : Method) : left.Discernible source right where
  owners := h.not_interchangeable hleft.owner hright.owner
  types := by
    intro position _ leftType rightType hleftType hrightType
    exact h.not_interchangeable
      (hleft.parameters _ (Candidate.mem_parameters_of_typeAt? hleftType))
      (hright.parameters _ (Candidate.mem_parameters_of_typeAt? hrightType))

end Delegation
