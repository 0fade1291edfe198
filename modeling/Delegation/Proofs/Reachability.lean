import Delegation.Proofs.Assignability

/-!
# Assignability as reachability by name

A type is assignable to another if that is the root or if its name is reached
from the type by declared supertypes, whichever copy of a type they record.  Of
the target only the name counts, of a type only what it reaches, so neither the
order of supertypes matters nor which of them is the superclass, and a type
that records more, be it itself or somewhere above, is assignable to more.
-/

namespace Delegation.ClassType

/--
The second type has the name of the first, and every supertype that the first declares has such
a counterpart among those of the second, which may declare others too.
-/
inductive Enriched : ClassType → ClassType → Prop where
  | intro {type richer : ClassType} (counterpart : ClassType → ClassType)
      (hname : richer.name = type.name)
      (hmem : ∀ supertype ∈ type.declaredSupertypes,
        counterpart supertype ∈ richer.declaredSupertypes)
      (habove : ∀ supertype ∈ type.declaredSupertypes,
        Enriched supertype (counterpart supertype)) : Enriched type richer

theorem Enriched.refl (type : ClassType) : Enriched type type := by
  refine .intro id rfl (fun _ hmem => hmem) fun supertype hmem => ?_
  have hlt := sizeOf_lt_of_mem_declaredSupertypes hmem
  exact Enriched.refl supertype
termination_by sizeOf type

theorem Enriched.of_subset {type richer : ClassType} (hname : richer.name = type.name)
    (hsubset : type.declaredSupertypes ⊆ richer.declaredSupertypes) : Enriched type richer :=
  .intro id hname (fun _ hmem => hsubset hmem) fun supertype _ => Enriched.refl supertype

theorem Enriched.reaches {type upper : ClassType} (hreaches : Reaches type upper)
    {richer : ClassType} (h : Enriched type richer) :
    ∃ other, Reaches richer other ∧ other.name = upper.name := by
  induction hreaches generalizing richer with
  | here type =>
      obtain ⟨_, hname, _, _⟩ := h
      exact ⟨richer, .here richer, hname⟩
  | above hsupertype _ ih =>
      obtain ⟨counterpart, _, hmem, habove⟩ := h
      obtain ⟨other, hother, hname⟩ := ih (habove _ hsupertype)
      exact ⟨other, .above (hmem _ hsupertype) hother, hname⟩

theorem Enriched.assignableFrom {type richer : ClassType} (h : Enriched type richer)
    {target : ClassType} (hfrom : target.assignableFrom type = true) :
    target.assignableFrom richer = true := by
  rw [assignableFrom_iff_reaches] at hfrom ⊢
  rcases hfrom with hroot | ⟨upper, hreaches, hname⟩
  · exact .inl hroot
  · obtain ⟨other, hother, hsame⟩ := h.reaches hreaches
    exact .inr ⟨other, hother, hsame.trans hname⟩

theorem assignableFrom_congr_name {target other : ClassType} (h : other.name = target.name)
    (type : ClassType) : other.assignableFrom type = target.assignableFrom type := by
  rw [Bool.eq_iff_iff, assignableFrom_iff_reaches, assignableFrom_iff_reaches, h]

theorem assignableFrom_congr_perm {type other : ClassType} (hname : other.name = type.name)
    (hperm : other.declaredSupertypes.Perm type.declaredSupertypes) (target : ClassType) :
    target.assignableFrom other = target.assignableFrom type := by
  have hup : Enriched other type := .of_subset hname.symm hperm.subset
  have hdown : Enriched type other := .of_subset hname hperm.symm.subset
  exact Bool.eq_iff_iff.mpr ⟨hup.assignableFrom, hdown.assignableFrom⟩

/--
A type is assignable to the root and to every type whose name it reaches.  The supertypes of the
target do not count, nor does the order of the type's own, and recording more never takes
assignability away.
-/
theorem assignableFrom_exact (target type : ClassType) :
    (target.assignableFrom type = true ↔
      target.name = rootName ∨ ∃ upper, Reaches type upper ∧ upper.name = target.name) ∧
    (type.assignableTo target = true ↔
      target.name = rootName ∨ ∃ upper, Reaches type upper ∧ upper.name = target.name) ∧
    (∀ other : ClassType, other.name = target.name →
      other.assignableFrom type = target.assignableFrom type) ∧
    (∀ other : ClassType, other.name = type.name →
      other.declaredSupertypes.Perm type.declaredSupertypes →
        target.assignableFrom other = target.assignableFrom type) ∧
    ∀ richer, Enriched type richer → target.assignableFrom type = true →
      target.assignableFrom richer = true := by
  have hiff := assignableFrom_iff_reaches target type
  refine ⟨hiff, hiff, ?_, ?_, ?_⟩
  · intro other hname
    exact assignableFrom_congr_name hname type
  · intro other hname hperm
    exact assignableFrom_congr_perm hname hperm target
  · intro richer hricher hfrom
    exact hricher.assignableFrom hfrom

/-- The supertypes of `integer`, which takes its superclass for an interface. -/
def reshuffled : ClassType :=
  { name := "java.lang.Integer", superclass := some comparable, interfaces := [number] }

/-- Knows of `integer` no more than the name of its superclass. -/
def sketched : ClassType :=
  { name := "java.lang.Integer", interfaces := [{ name := "java.lang.Number" }] }

theorem enriched_sketched : Enriched sketched integer := by
  refine .intro (fun _ => number) rfl ?_ ?_
  · intro supertype _
    simp [integer, declaredSupertypes]
  · intro supertype hsupertype
    obtain rfl : supertype = { name := "java.lang.Number" } := by
      simpa [sketched, declaredSupertypes] using hsupertype
    exact .of_subset rfl (by simp [declaredSupertypes])

theorem assignableFrom_exact_sketched :
    number.assignableFrom sketched = true ∧ number.assignableFrom integer = true ∧
      serializable.assignableFrom reshuffled = serializable.assignableFrom integer := by
  have hsketched : number.assignableFrom sketched = true := by decide
  have hricher := (assignableFrom_exact number sketched).2.2.2.2 integer enriched_sketched hsketched
  have hperm : reshuffled.declaredSupertypes.Perm integer.declaredSupertypes := .swap _ _ _
  exact ⟨hsketched, hricher,
    (assignableFrom_exact serializable integer).2.2.2.1 reshuffled rfl hperm⟩

end Delegation.ClassType
