import Delegation.Types.ParamType

/-!
# The language of descriptors

A text is read as a primitive kind if it is the kind's letter or keyword, and as
a class if it is an `L`, a body without semicolons and a semicolon.  No text is
both, and every other text is refused as itself, by what it begins like.
-/

namespace Delegation

/-! ## Primitive kinds -/

namespace Primitive

theorem isNamedBy_iff {primitive : Primitive} {text : String} :
    primitive.isNamedBy text = true ↔
      text = primitive.letter.toString ∨ text = primitive.keyword := by
  rw [isNamedBy, Bool.or_eq_true, beq_iff_eq, beq_iff_eq]

theorem eq_of_isNamedBy {first second : Primitive} {text : String}
    (hfirst : first.isNamedBy text = true) (hsecond : second.isNamedBy text = true) :
    first = second := by
  rw [isNamedBy_iff] at hfirst hsecond
  rcases hfirst with rfl | rfl <;> revert hsecond <;> cases first <;> cases second <;> decide

theorem mem_all (primitive : Primitive) : primitive ∈ all := by
  cases primitive <;> decide

theorem parse_eq_ok_iff {text : String} {primitive : Primitive} :
    parse text = .ok primitive ↔
      text = primitive.letter.toString ∨ text = primitive.keyword := by
  rw [← isNamedBy_iff, parse]
  constructor
  · intro h
    split at h
    · rename_i other hfound
      cases h
      simpa using List.find?_some hfound
    · cases h
  · intro hnamed
    cases hfound : all.find? (·.isNamedBy text) with
    | none => exact absurd hnamed (List.find?_eq_none.mp hfound primitive (mem_all primitive))
    | some other =>
        have hother : other.isNamedBy text = true := by simpa using List.find?_some hfound
        rw [eq_of_isNamedBy hother hnamed]

theorem parse_eq_error_iff {text : String} {fault : DescriptorFault} :
    parse text = .error fault ↔
      fault = .unknownPrimitive text ∧
        ∀ primitive : Primitive, text ≠ primitive.letter.toString ∧ text ≠ primitive.keyword := by
  have hnone : all.find? (·.isNamedBy text) = none ↔
      ∀ primitive : Primitive, text ≠ primitive.letter.toString ∧ text ≠ primitive.keyword := by
    simp [List.find?_eq_none, mem_all, isNamedBy]
  rw [← hnone, parse]
  cases all.find? (·.isNamedBy text) with
  | none => simp [eq_comm]
  | some primitive => simp

end Primitive

/-! ## Class descriptors -/

namespace ClassType

/-- The text is the descriptor of a class with this internal name. -/
structure Describes (text : String) (internal : List Char) : Prop where
  eq : text.toList = 'L' :: internal ++ [';']
  ne_nil : internal ≠ []
  notMem : ';' ∉ internal

theorem describes_iff {text : String} {internal : List Char} :
    Describes text internal ↔ descriptorBody? text.toList = some internal := by
  rw [descriptorBody?_eq_some_iff]
  exact ⟨fun h => ⟨h.eq, h.ne_nil, h.notMem⟩, fun h => ⟨h.1, h.2.1, h.2.2⟩⟩

theorem parse_eq_ok_iff {text : String} {type : ClassType} :
    parse text = .ok type ↔
      ∃ internal, Describes text internal ∧
        type = { name := String.ofList (binaryName internal) } := by
  simp only [describes_iff, parse]
  cases descriptorBody? text.toList with
  | none => simp
  | some internal => simp [eq_comm]

theorem parse_eq_error_iff {text : String} {fault : DescriptorFault} :
    parse text = .error fault ↔
      fault = .malformedReference text ∧ ∀ internal, ¬ Describes text internal := by
  simp only [describes_iff, parse]
  cases descriptorBody? text.toList with
  | none => simp [eq_comm]
  | some internal => simp

end ClassType

/-! ## Parameter types -/

namespace ParamType

/-- The text begins with an `L` that is not all of it. -/
def BeginsAsClass (text : String) : Prop :=
  text.toList.head? = some 'L' ∧ 1 < text.length

theorem beginsAsClass_iff {text : String} :
    BeginsAsClass text ↔ ∃ second rest, text.toList = 'L' :: second :: rest := by
  rw [BeginsAsClass, ← String.length_toList]
  match text.toList with
  | [] => simp
  | [only] => simp
  | first :: second :: rest => simp

instance (text : String) : Decidable (BeginsAsClass text) :=
  inferInstanceAs (Decidable (_ ∧ _))

theorem parse_of_beginsAsClass {text : String} (h : BeginsAsClass text) :
    parse text = (ClassType.parse text).map .reference := by
  obtain ⟨second, rest, htext⟩ := beginsAsClass_iff.mp h
  rw [parse, htext]
  rfl

theorem parse_of_not_beginsAsClass {text : String} (h : ¬ BeginsAsClass text) :
    parse text = (Primitive.parse text).map .primitive := by
  rw [parse]
  split
  · rename_i second rest htext
    exact absurd (beginsAsClass_iff.mpr ⟨second, rest, htext⟩) h
  · rfl

theorem beginsAsClass_of_describes {text : String} {internal : List Char}
    (h : ClassType.Describes text internal) : BeginsAsClass text := by
  obtain ⟨first, rest, hinternal⟩ := List.exists_cons_of_ne_nil h.ne_nil
  exact beginsAsClass_iff.mpr ⟨first, rest ++ [';'], by simp [h.eq, hinternal]⟩

theorem not_beginsAsClass_of_named {primitive : Primitive} {text : String}
    (h : text = primitive.letter.toString ∨ text = primitive.keyword) :
    ¬ BeginsAsClass text := by
  rcases h with rfl | rfl <;> cases primitive <;> decide

theorem parse_eq_primitive_iff {text : String} {primitive : Primitive} :
    parse text = .ok (.primitive primitive) ↔
      text = primitive.letter.toString ∨ text = primitive.keyword := by
  by_cases hclass : BeginsAsClass text
  · have hnot : ¬ (text = primitive.letter.toString ∨ text = primitive.keyword) :=
      fun hnamed => not_beginsAsClass_of_named hnamed hclass
    rw [parse_of_beginsAsClass hclass, iff_false_right hnot]
    cases ClassType.parse text <;> simp [Except.map]
  · rw [parse_of_not_beginsAsClass hclass, ← Primitive.parse_eq_ok_iff]
    cases Primitive.parse text <;> simp [Except.map]

theorem parse_eq_reference_iff {text : String} {type : ClassType} :
    parse text = .ok (.reference type) ↔ ClassType.parse text = .ok type := by
  by_cases hclass : BeginsAsClass text
  · rw [parse_of_beginsAsClass hclass]
    cases ClassType.parse text <;> simp [Except.map]
  · have hnot : ClassType.parse text ≠ .ok type := by
      rw [Ne, ClassType.parse_eq_ok_iff]
      rintro ⟨internal, hdescribes, -⟩
      exact hclass (beginsAsClass_of_describes hdescribes)
    rw [parse_of_not_beginsAsClass hclass, iff_false_right hnot]
    cases Primitive.parse text <;> simp [Except.map]

theorem parse_eq_error_iff {text : String} {fault : DescriptorFault} :
    parse text = .error fault ↔
      BeginsAsClass text ∧ ClassType.parse text = .error fault ∨
        ¬ BeginsAsClass text ∧ Primitive.parse text = .error fault := by
  by_cases hclass : BeginsAsClass text
  · rw [parse_of_beginsAsClass hclass]
    cases ClassType.parse text <;> simp [Except.map, hclass]
  · rw [parse_of_not_beginsAsClass hclass]
    cases Primitive.parse text <;> simp [Except.map, hclass]

/--
A text is read as the primitive kind whose letter or keyword it is, as a class without recorded
supertypes if it is the descriptor of one, and is refused as itself otherwise.
-/
theorem parse_exact (text : String) :
    (∀ primitive : Primitive, parse text = .ok (.primitive primitive) ↔
      text = primitive.letter.toString ∨ text = primitive.keyword) ∧
    (∀ type : ClassType, parse text = .ok (.reference type) ↔
      ∃ internal, ClassType.Describes text internal ∧ type =
        { name := String.ofList (internal.map fun letter => if letter = '/' then '.' else letter),
          superclass := none, interfaces := [] }) ∧
    (∀ refused, parse text = .error (.malformedReference refused) ↔
      refused = text ∧ BeginsAsClass text ∧ ∀ internal, ¬ ClassType.Describes text internal) ∧
    (∀ refused, parse text = .error (.unknownPrimitive refused) ↔
      refused = text ∧ ¬ BeginsAsClass text ∧ ∀ primitive : Primitive,
        text ≠ primitive.letter.toString ∧ text ≠ primitive.keyword) ∧
    (∀ type, ClassType.parse text = .ok type ↔ parse text = .ok (.reference type)) ∧
    (∀ fault, ClassType.parse text = .error fault ↔
      fault = .malformedReference text ∧ ∀ internal, ¬ ClassType.Describes text internal) := by
  refine ⟨fun _ => parse_eq_primitive_iff, ?_, ?_, ?_, fun _ => parse_eq_reference_iff.symm,
    fun _ => ClassType.parse_eq_error_iff⟩
  · intro type
    rw [parse_eq_reference_iff, ClassType.parse_eq_ok_iff]
    rfl
  · intro refused
    rw [parse_eq_error_iff, ClassType.parse_eq_error_iff, Primitive.parse_eq_error_iff,
      DescriptorFault.malformedReference.injEq]
    constructor
    · rintro (⟨hclass, rfl, hnot⟩ | ⟨-, hfault, -⟩)
      · exact ⟨rfl, hclass, hnot⟩
      · cases hfault
    · rintro ⟨rfl, hclass, hnot⟩
      exact .inl ⟨hclass, rfl, hnot⟩
  · intro refused
    rw [parse_eq_error_iff, ClassType.parse_eq_error_iff, Primitive.parse_eq_error_iff,
      DescriptorFault.unknownPrimitive.injEq]
    constructor
    · rintro (⟨-, hfault, -⟩ | ⟨hclass, rfl, hnot⟩)
      · cases hfault
      · exact ⟨rfl, hclass, hnot⟩
    · rintro ⟨rfl, hclass, hnot⟩
      exact .inr ⟨hclass, rfl, hnot⟩

-- An `L` alone names no primitive kind; with an empty body it begins as a class.
example : parse "L" = .error (.unknownPrimitive "L") := by rfl

example : parse "L;" = .error (.malformedReference "L;") := by rfl

end ParamType

end Delegation
