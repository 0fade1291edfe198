import Delegation.Proofs.Descriptors
import Mathlib.Data.List.Basic

/-!
# Written descriptors are read back

Slashes become dots when a descriptor is read and dots become slashes when it is
written, so either step undoes the other only up to these two letters.  A type
that was read is read back from its descriptor.  A class with just any name is
read back if the name has no slash; with one it turns into another class, and
without letters or with a semicolon it has no readable descriptor.
-/

namespace Delegation

/-! ## Names -/

namespace ClassType

theorem binaryName_internalName (binary : List Char) :
    binaryName (internalName binary) = binaryName binary := by
  simp only [binaryName, internalName, List.map_map]
  refine List.map_congr_left fun letter _ => ?_
  by_cases hdot : letter = '.'
  · simp [hdot]
  · simp [hdot]

theorem internalName_binaryName (internal : List Char) :
    internalName (binaryName internal) = internalName internal := by
  simp only [binaryName, internalName, List.map_map]
  refine List.map_congr_left fun letter _ => ?_
  by_cases hslash : letter = '/'
  · simp [hslash]
  · simp [hslash]

/-- No slash is left in a binary name. -/
theorem binaryName_eq_self_iff {letters : List Char} :
    binaryName letters = letters ↔ '/' ∉ letters := by
  constructor
  · intro hself hslash
    rw [← hself] at hslash
    obtain ⟨letter, -, hletter⟩ := List.mem_map.mp hslash
    split at hletter
    · cases hletter
    · contradiction
  · intro hslash
    refine (List.map_congr_left fun letter hmem => ?_).trans (List.map_id letters)
    rw [if_neg (ne_of_mem_of_not_mem hmem hslash), id]

theorem semicolon_mem_internalName_iff {binary : List Char} :
    ';' ∈ internalName binary ↔ ';' ∈ binary := by
  rw [internalName, List.mem_map]
  constructor
  · rintro ⟨letter, hmem, hletter⟩
    split at hletter
    · cases hletter
    · rwa [← hletter]
  · intro hmem
    exact ⟨';', hmem, rfl⟩

/-! ## Classes -/

/-- A descriptor can be read if the name has letters and none of them is a semicolon. -/
theorem describes_descriptor_iff {type : ClassType} {internal : List Char} :
    Describes type.descriptor internal ↔
      (type.name ≠ "" ∧ ';' ∉ type.name.toList) ∧ internal = internalName type.name.toList := by
  have hletters : type.descriptor.toList = 'L' :: internalName type.name.toList ++ [';'] :=
    String.toList_ofList
  have hnil : internalName type.name.toList = [] ↔ type.name = "" := by
    rw [internalName, List.map_eq_nil_iff, String.toList_eq_nil_iff]
  constructor
  · intro h
    have hsame : internal = internalName type.name.toList := by
      have hbody := h.eq.symm.trans hletters
      simpa using hbody
    refine ⟨⟨fun hempty => h.ne_nil (hsame ▸ hnil.mpr hempty), fun hmem => ?_⟩, hsame⟩
    exact h.notMem (hsame ▸ semicolon_mem_internalName_iff.mpr hmem)
  · rintro ⟨⟨hne, hmem⟩, rfl⟩
    exact ⟨hletters, mt hnil.mp hne, mt semicolon_mem_internalName_iff.mp hmem⟩

theorem parse_descriptor_eq_ok_iff {type other : ClassType} :
    parse type.descriptor = .ok other ↔
      (type.name ≠ "" ∧ ';' ∉ type.name.toList) ∧
        other = { name := String.ofList (binaryName type.name.toList) } := by
  rw [parse_eq_ok_iff]
  simp only [describes_descriptor_iff]
  constructor
  · rintro ⟨_, ⟨hname, rfl⟩, rfl⟩
    rw [binaryName_internalName]
    exact ⟨hname, rfl⟩
  · rintro ⟨hname, rfl⟩
    refine ⟨_, ⟨hname, rfl⟩, ?_⟩
    rw [binaryName_internalName]

theorem parse_descriptor_eq_error_iff {type : ClassType} {fault : DescriptorFault} :
    parse type.descriptor = .error fault ↔
      fault = .malformedReference type.descriptor ∧
        (type.name = "" ∨ ';' ∈ type.name.toList) := by
  rw [parse_eq_error_iff]
  refine and_congr_right fun _ => ?_
  simp only [describes_descriptor_iff, not_and]
  constructor
  · intro hnone
    by_contra hname
    rw [not_or] at hname
    exact hnone _ hname rfl
  · rintro (hempty | hmem) _ ⟨hne, hnotMem⟩
    · exact absurd hempty hne
    · exact absurd hmem hnotMem

theorem ofList_binaryName_eq_iff {name : String} :
    String.ofList (binaryName name.toList) = name ↔ '/' ∉ name.toList := by
  rw [← binaryName_eq_self_iff, ← String.toList_inj, String.toList_ofList]

/-! ## Texts -/

theorem Describes.internalName_eq {text : String} {internal : List Char}
    (h : Describes text internal) :
    internalName text.toList = 'L' :: internalName internal ++ [';'] := by
  rw [h.eq]
  simp [internalName]

theorem Describes.rewritten {text : String} {internal : List Char} (h : Describes text internal) :
    Describes (String.ofList (internalName text.toList)) (internalName internal) where
  eq := String.toList_ofList.trans h.internalName_eq
  ne_nil := mt List.map_eq_nil_iff.mp h.ne_nil
  notMem := mt semicolon_mem_internalName_iff.mp h.notMem

/-- A text that describes a class is written again with its dots as slashes. -/
theorem descriptor_of_parse {text : String} {type : ClassType} (h : parse text = .ok type) :
    type.descriptor = String.ofList (internalName text.toList) := by
  obtain ⟨internal, hdescribes, rfl⟩ := parse_eq_ok_iff.mp h
  rw [hdescribes.internalName_eq, descriptor, String.toList_ofList, internalName_binaryName]

theorem parse_descriptor_of_parse {text : String} {type : ClassType} (h : parse text = .ok type) :
    parse type.descriptor = .ok type := by
  obtain ⟨internal, hdescribes, htype⟩ := parse_eq_ok_iff.mp h
  rw [descriptor_of_parse h, parse_eq_ok_iff]
  exact ⟨internalName internal, hdescribes.rewritten, by rw [htype, binaryName_internalName]⟩

/-! ## Equal classes -/

theorem parse_descriptor_beq_iff {type : ClassType} :
    (∃ other, parse type.descriptor = .ok other ∧ (other == type) = true) ↔
      type.name ≠ "" ∧ ';' ∉ type.name.toList ∧ '/' ∉ type.name.toList := by
  simp only [parse_descriptor_eq_ok_iff, beq_iff_name_eq]
  constructor
  · rintro ⟨_, ⟨⟨hne, hmem⟩, rfl⟩, hname⟩
    exact ⟨hne, hmem, ofList_binaryName_eq_iff.mp hname⟩
  · rintro ⟨hne, hmem, hslash⟩
    exact ⟨_, ⟨⟨hne, hmem⟩, rfl⟩, ofList_binaryName_eq_iff.mpr hslash⟩

theorem parse_descriptor_of_slash {type : ClassType} (hne : type.name ≠ "")
    (hmem : ';' ∉ type.name.toList) (hslash : '/' ∈ type.name.toList) :
    ∃ other, parse type.descriptor = .ok other ∧ (other == type) = false := by
  refine ⟨_, parse_descriptor_eq_ok_iff.mpr ⟨⟨hne, hmem⟩, rfl⟩, ?_⟩
  rw [Bool.eq_false_iff, Ne, beq_iff_name_eq, ofList_binaryName_eq_iff]
  exact not_not_intro hslash

end ClassType

/-! ## Parameter types -/

namespace ParamType

theorem parse_descriptor_of_parse {text : String} {type : ParamType} (h : parse text = .ok type) :
    parse type.descriptor = .ok type := by
  cases type with
  | primitive kind => exact parse_eq_primitive_iff.mpr (.inl rfl)
  | reference type =>
      exact parse_eq_reference_iff.mpr
        (ClassType.parse_descriptor_of_parse (parse_eq_reference_iff.mp h))

/--
A type that was read is read back, from the text that it was read from up to dots that are now
slashes.  Any class is read back exactly if its name has letters and neither semicolons nor
slashes; without letters or with semicolons its descriptor is refused, and with slashes alone it
is read as another class.
-/
theorem parse_descriptor_exact :
    (∀ text type, parse text = .ok type →
      parse type.descriptor = .ok type ∧
        ∀ declared, type = .reference declared → type.descriptor =
          String.ofList (text.toList.map fun letter => if letter = '.' then '/' else letter)) ∧
    ∀ type : ClassType,
      ((∃ other, ClassType.parse type.descriptor = .ok other ∧ (other == type) = true) ↔
        type.name ≠ "" ∧ ';' ∉ type.name.toList ∧ '/' ∉ type.name.toList) ∧
      (∀ fault, ClassType.parse type.descriptor = .error fault ↔
        fault = .malformedReference type.descriptor ∧
          (type.name = "" ∨ ';' ∈ type.name.toList)) ∧
      (type.name ≠ "" → ';' ∉ type.name.toList → '/' ∈ type.name.toList →
        ∃ other, ClassType.parse type.descriptor = .ok other ∧ (other == type) = false) := by
  refine ⟨fun text type h => ⟨parse_descriptor_of_parse h, ?_⟩, fun type =>
    ⟨ClassType.parse_descriptor_beq_iff, fun _ => ClassType.parse_descriptor_eq_error_iff,
      ClassType.parse_descriptor_of_slash⟩⟩
  rintro declared rfl
  exact ClassType.descriptor_of_parse (parse_eq_reference_iff.mp h)

/-- Read from a text the class keeps its dot as a slash; named like that text it would not. -/
theorem parse_descriptor_exact_mixed :
    parse "Ltools/Box.Lid;" = .ok (.reference { name := "tools.Box.Lid" }) ∧
      ParamType.descriptor (.reference { name := "tools.Box.Lid" }) = "Ltools/Box/Lid;" ∧
      parse "Ltools/Box/Lid;" = .ok (.reference { name := "tools.Box.Lid" }) ∧
      ∃ other, ClassType.parse (ClassType.descriptor { name := "tools/Box.Lid" }) = .ok other ∧
        (other == { name := "tools/Box.Lid" }) = false := by
  have hread : parse "Ltools/Box.Lid;" = .ok (.reference { name := "tools.Box.Lid" }) := rfl
  obtain ⟨hback, hwritten⟩ := parse_descriptor_exact.1 _ _ hread
  have hdescriptor := hwritten _ rfl
  have htext : String.ofList ("Ltools/Box.Lid;".toList.map fun letter =>
      if letter = '.' then '/' else letter) = "Ltools/Box/Lid;" := by decide
  rw [hdescriptor, htext] at hback
  refine ⟨hread, hdescriptor.trans htext, hback, ?_⟩
  exact (parse_descriptor_exact.2 { name := "tools/Box.Lid" }).2.2 (by decide) (by decide)
    (by decide)

end ParamType

end Delegation
