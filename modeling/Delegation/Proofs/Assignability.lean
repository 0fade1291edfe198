import Delegation.Types.Hierarchy

/-!
# Assignability in coherent hierarchies

In a coherent set of class types a name stands for one type, recorded
supertypes included.  Assignability between its members is then reachability
itself, except that everything may be assigned to the root, and reachability
goes down in size with every step.  So assignability is a partial order whose
greatest element is the root.
-/

namespace Delegation.ClassType

/-! ## The order of reachability -/

theorem Reaches.sizeOf_le {lower upper : ClassType} (h : Reaches lower upper) :
    sizeOf upper ≤ sizeOf lower := by
  induction h with
  | here type => exact Nat.le_refl _
  | above hmem _ ih =>
      have hlt := sizeOf_lt_of_mem_declaredSupertypes hmem
      omega

theorem Reaches.antisymm {first second : ClassType} (hup : Reaches first second)
    (hdown : Reaches second first) : first = second := by
  cases hup with
  | here => rfl
  | above hmem hupper =>
      have hlt := sizeOf_lt_of_mem_declaredSupertypes hmem
      have hle := hupper.sizeOf_le
      have hback := hdown.sizeOf_le
      omega

theorem assignableFrom_self (type : ClassType) : type.assignableFrom type = true :=
  (assignableFrom_iff_reaches type type).mpr (.inr ⟨type, .here type, rfl⟩)

theorem assignableFrom_of_root {target : ClassType} (h : target.name = rootName)
    (type : ClassType) : target.assignableFrom type = true :=
  (assignableFrom_iff_reaches target type).mpr (.inl h)

/-! ## Names in a coherent set -/

private theorem eq_of_map_name_eq {first second : List ClassType}
    (h : ∀ left ∈ first, ∀ right ∈ second, left.name = right.name → left = right)
    (hnames : first.map name = second.map name) : first = second := by
  have hlength : first.length = second.length := by
    simpa using congrArg List.length hnames
  refine List.ext_getElem hlength fun position hleft hright => ?_
  refine h _ (List.getElem_mem hleft) _ (List.getElem_mem hright) ?_
  have hname := List.getElem_of_eq hnames (i := position) (by simpa using hleft)
  simpa using hname

namespace Coherent

variable {types : ClassType → Prop}

/-- The induction is on the first type; supertypes of either are members of the set. -/
theorem eq_of_name_eq (h : Coherent types) (first second : ClassType) (hfirst : types first)
    (hsecond : types second) (hname : first.name = second.name) : first = second := by
  have hsupertypes : ∀ left ∈ first.declaredSupertypes, ∀ right ∈ second.declaredSupertypes,
      left.name = right.name → left = right := by
    intro left hleft right hright hsame
    have hlt := sizeOf_lt_of_mem_declaredSupertypes hleft
    exact eq_of_name_eq h left right (h.closed first hfirst left hleft)
      (h.closed second hsecond right hright) hsame
  have hsuperclass : first.superclass.toList = second.superclass.toList := by
    apply eq_of_map_name_eq
    · intro left hleft right hright
      exact hsupertypes left (List.mem_append_left _ hleft) right (List.mem_append_left _ hright)
    · rw [← Option.toList_map, ← Option.toList_map,
        h.superclass first hfirst second hsecond hname]
  have hinterfaces : first.interfaces = second.interfaces := by
    apply eq_of_map_name_eq
    · intro left hleft right hright
      exact hsupertypes left (List.mem_append_right _ hleft)
        right (List.mem_append_right _ hright)
    · exact h.interfaces first hfirst second hsecond hname
  obtain ⟨firstName, firstSuperclass, firstInterfaces⟩ := first
  obtain ⟨secondName, secondSuperclass, secondInterfaces⟩ := second
  simp only [mk.injEq]
  refine ⟨hname, ?_, hinterfaces⟩
  simpa using congrArg List.head? hsuperclass
termination_by sizeOf first

theorem mem_of_reaches (h : Coherent types) {lower upper : ClassType}
    (hreaches : Reaches lower upper) (hlower : types lower) : types upper := by
  induction hreaches with
  | here type => exact hlower
  | above hmem _ ih => exact ih (h.closed _ hlower _ hmem)

theorem eq_of_reaches_of_root (h : Coherent types) {lower upper : ClassType}
    (hlower : types lower) (hroot : lower.name = rootName) (hreaches : Reaches lower upper) :
    upper = lower := by
  cases hreaches with
  | here => rfl
  | above hmem _ =>
      rw [h.root lower hlower hroot] at hmem
      cases hmem

/-- Between members of a coherent set it no longer matters which copy of a type is reached. -/
theorem assignableFrom_iff (h : Coherent types) {target type : ClassType}
    (htarget : types target) (htype : types type) :
    target.assignableFrom type = true ↔ target.name = rootName ∨ Reaches type target := by
  rw [assignableFrom_iff_reaches]
  constructor
  · rintro (hroot | ⟨upper, hreaches, hname⟩)
    · exact .inl hroot
    · have hupper := h.mem_of_reaches hreaches htype
      exact .inr (h.eq_of_name_eq upper target hupper htarget hname ▸ hreaches)
  · rintro (hroot | hreaches)
    · exact .inl hroot
    · exact .inr ⟨target, hreaches, rfl⟩

theorem assignableFrom_trans (h : Coherent types) {lower middle upper : ClassType}
    (hlower : types lower) (hmiddle : types middle) (hupper : types upper)
    (hfirst : middle.assignableFrom lower = true)
    (hsecond : upper.assignableFrom middle = true) : upper.assignableFrom lower = true := by
  rw [h.assignableFrom_iff hmiddle hlower] at hfirst
  rw [h.assignableFrom_iff hupper hmiddle] at hsecond
  rw [h.assignableFrom_iff hupper hlower]
  rcases hsecond with hroot | hsecond
  · exact .inl hroot
  rcases hfirst with hroot | hfirst
  · have hsame := h.eq_of_reaches_of_root hmiddle hroot hsecond
    exact .inl (hsame ▸ hroot)
  · exact .inr (hfirst.trans hsecond)

theorem assignableFrom_antisymm (h : Coherent types) {first second : ClassType}
    (hfirst : types first) (hsecond : types second)
    (hdown : first.assignableFrom second = true)
    (hup : second.assignableFrom first = true) : first = second := by
  rw [h.assignableFrom_iff hfirst hsecond] at hdown
  rw [h.assignableFrom_iff hsecond hfirst] at hup
  rcases hdown with hroot | hdown
  · rcases hup with hroot' | hup
    · exact h.eq_of_name_eq first second hfirst hsecond (hroot.trans hroot'.symm)
    · exact (h.eq_of_reaches_of_root hfirst hroot hup).symm
  · rcases hup with hroot | hup
    · exact h.eq_of_reaches_of_root hsecond hroot hdown
    · exact hup.antisymm hdown

/-- Assignability is a partial order on a coherent set, with the root on top. -/
theorem assignableFrom_partialOrder (h : Coherent types) :
    (∀ type, types type → type.assignableFrom type = true) ∧
    (∀ lower, types lower → ∀ middle, types middle → ∀ upper, types upper →
      upper.assignableFrom middle = true → middle.assignableFrom lower = true →
        upper.assignableFrom lower = true) ∧
    (∀ first, types first → ∀ second, types second →
      first.assignableFrom second = true → second.assignableFrom first = true →
        (first == second) = true) ∧
    (∀ top : ClassType, top.name = rootName → ∀ type, types type →
      top.assignableFrom type = true) := by
  refine ⟨fun type _ => assignableFrom_self type, ?_, ?_, ?_⟩
  · intro lower hlower middle hmiddle upper hupper hsecond hfirst
    exact h.assignableFrom_trans hlower hmiddle hupper hfirst hsecond
  · intro first hfirst second hsecond hdown hup
    rw [beq_iff_name_eq, h.assignableFrom_antisymm hfirst hsecond hdown hup]
  · intro top hroot type _
    exact assignableFrom_of_root hroot type

end Coherent

def comparable : ClassType := { name := "java.lang.Comparable" }

def serializable : ClassType := { name := "java.io.Serializable" }

def number : ClassType :=
  { name := "java.lang.Number", superclass := some root, interfaces := [serializable] }

def integer : ClassType :=
  { name := "java.lang.Integer", superclass := some number, interfaces := [comparable] }

theorem coherent_integer :
    Coherent (· ∈ [root, comparable, serializable, number, integer]) where
  closed := by
    intro type htype supertype hsupertype
    simp only [List.mem_cons, List.not_mem_nil, or_false] at htype
    rcases htype with rfl | rfl | rfl | rfl | rfl <;>
      simp only [declaredSupertypes, root, comparable, serializable, number, integer,
        Option.toList_none, Option.toList_some, List.append_nil, List.cons_append,
        List.nil_append, List.mem_cons, List.not_mem_nil, or_false] at hsupertype
    · rcases hsupertype with rfl | rfl <;> simp [root, serializable]
    · rcases hsupertype with rfl | rfl <;> simp [number, comparable, root, serializable]
  superclass := by simp [root, comparable, serializable, number, integer, rootName]
  interfaces := by simp [root, comparable, serializable, number, integer, rootName]
  root := by simp [declaredSupertypes, root, comparable, serializable, number, integer, rootName]

theorem assignableFrom_partialOrder_integer :
    serializable.assignableFrom number = true ∧ number.assignableFrom integer = true ∧
      serializable.assignableFrom integer = true := by
  have hupper : serializable.assignableFrom number = true := by decide
  have hlower : number.assignableFrom integer = true := by decide
  exact ⟨hupper, hlower, coherent_integer.assignableFrom_partialOrder.2.1
    integer (by simp) number (by simp) serializable (by simp) hupper hlower⟩

/-- Outside coherent sets a path may end at a copy of a type that records less. -/
example :
    let declared : ClassType := { name := "java.lang.Number", interfaces := [comparable] }
    let parsed : ClassType := { name := "java.lang.Number" }
    let lower : ClassType := { name := "java.lang.Integer", superclass := some parsed }
    comparable.assignableFrom declared = true ∧ declared.assignableFrom lower = true ∧
      comparable.assignableFrom lower = false := by
  decide

end Delegation.ClassType
