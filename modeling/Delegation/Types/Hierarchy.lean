import Delegation.Types.ClassType

/-!
# Hierarchies

A class type reaches every type above it.  Assignability is reachability by
name, up to the root to which everything is assignable.  In a coherent set of
class types, equal names stand for equally declared types.
-/

namespace Delegation.ClassType

/-- The second type stands above the first, in zero or more steps. -/
inductive Reaches : ClassType → ClassType → Prop where
  | here (type : ClassType) : Reaches type type
  | above {type supertype upper : ClassType} (h : supertype ∈ type.declaredSupertypes)
      (hupper : Reaches supertype upper) : Reaches type upper

/-- A set of types that is closed upwards and in which a name has one declaration. -/
structure Coherent (types : ClassType → Prop) : Prop where
  closed : ∀ type, types type → ∀ supertype ∈ type.declaredSupertypes, types supertype
  superclass : ∀ first, types first → ∀ second, types second → first.name = second.name →
    first.superclass.map name = second.superclass.map name
  interfaces : ∀ first, types first → ∀ second, types second → first.name = second.name →
    first.interfaces.map name = second.interfaces.map name
  root : ∀ type, types type → type.name = rootName → type.declaredSupertypes = []

theorem Reaches.trans {lower middle upper : ClassType} (hlower : Reaches lower middle)
    (hupper : Reaches middle upper) : Reaches lower upper := by
  induction hlower with
  | here type => exact hupper
  | above h _ ih => exact .above h (ih hupper)

theorem sizeOf_lt_of_mem_declaredSupertypes {type supertype : ClassType}
    (h : supertype ∈ type.declaredSupertypes) : sizeOf supertype < sizeOf type := by
  obtain ⟨name, superclass, interfaces⟩ := type
  simp only [declaredSupertypes, List.mem_append, Option.mem_toList] at h
  rcases h with h | h
  · subst h
    simp only [mk.sizeOf_spec, Option.some.sizeOf_spec]
    omega
  · have hsize := List.sizeOf_lt_of_mem h
    simp only [mk.sizeOf_spec]
    omega

theorem assignableFrom_iff_reaches (target type : ClassType) :
    target.assignableFrom type = true ↔
      target.name = rootName ∨ ∃ upper, Reaches type upper ∧ upper.name = target.name := by
  rw [assignableFrom_eq]
  constructor
  · intro h
    simp only [Bool.or_eq_true, beq_iff_name_eq, isRoot, beq_iff_eq, List.any_eq_true] at h
    rcases h with (hname | hroot) | ⟨supertype, hmem, hfrom⟩
    · exact .inr ⟨type, .here type, hname.symm⟩
    · exact .inl hroot
    · have hlt := sizeOf_lt_of_mem_declaredSupertypes hmem
      rcases (assignableFrom_iff_reaches target supertype).mp hfrom with hroot | ⟨upper, hup, hname⟩
      · exact .inl hroot
      · exact .inr ⟨upper, .above hmem hup, hname⟩
  · intro h
    simp only [Bool.or_eq_true, beq_iff_name_eq, isRoot, beq_iff_eq, List.any_eq_true]
    rcases h with hroot | ⟨upper, hup, hname⟩
    · exact .inl (.inr hroot)
    · cases hup with
      | here => exact .inl (.inl hname.symm)
      | above hmem hup =>
          have hlt := sizeOf_lt_of_mem_declaredSupertypes hmem
          exact .inr ⟨_, hmem,
            (assignableFrom_iff_reaches target _).mpr (.inr ⟨upper, hup, hname⟩)⟩
termination_by sizeOf type

end Delegation.ClassType
