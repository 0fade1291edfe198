import Delegation.Types.DescriptorFault

/-!
# Class types

A class or interface carries its binary name and the supertypes it was
declared with, themselves class types, so a hierarchy has no cycles and
assignability needs no further table.  Two class types are the same type when
their names agree: `==` compares names only, while `=` also tells apart
declarations of one name with different supertypes.
-/

namespace Delegation

structure ClassType where
  name : String
  superclass : Option ClassType := none
  interfaces : List ClassType := []

namespace ClassType

instance : BEq ClassType where
  beq first second := first.name == second.name

instance : Hashable ClassType where
  hash type := hash type.name

theorem beq_iff_name_eq {first second : ClassType} :
    (first == second) = true ↔ first.name = second.name := by
  rw [BEq.beq, instBEq, beq_iff_eq]

def rootName : String := "java.lang.Object"

def root : ClassType := { name := rootName }

def isRoot (type : ClassType) : Bool := type.name == rootName

def declaredSupertypes (type : ClassType) : List ClassType :=
  type.superclass.toList ++ type.interfaces

/-! ## Assignability -/

mutual

/--
Whether a value of the second type may be stored in a variable of the first:
the first is the root, or its name occurs at or above the second.
-/
def assignableFrom (target : ClassType) : ClassType → Bool
  | ⟨name, superclass, interfaces⟩ =>
      target.name == name || target.isRoot ||
        assignableFromSuperclass target superclass ||
        assignableFromAny target interfaces

def assignableFromSuperclass (target : ClassType) : Option ClassType → Bool
  | none => false
  | some superclass => assignableFrom target superclass

def assignableFromAny (target : ClassType) : List ClassType → Bool
  | [] => false
  | type :: types => assignableFrom target type || assignableFromAny target types

end

def assignableTo (type target : ClassType) : Bool := target.assignableFrom type

theorem assignableFromAny_eq_any (target : ClassType) (types : List ClassType) :
    assignableFromAny target types = types.any (assignableFrom target) := by
  induction types with
  | nil => rfl
  | cons type types ih => rw [assignableFromAny, List.any_cons, ih]

theorem assignableFrom_eq (target type : ClassType) :
    target.assignableFrom type =
      (target == type || target.isRoot || type.declaredSupertypes.any target.assignableFrom) := by
  obtain ⟨name, superclass, interfaces⟩ := type
  rw [assignableFrom, assignableFromAny_eq_any]
  cases superclass <;>
    simp [declaredSupertypes, assignableFromSuperclass, BEq.beq, Bool.or_assoc]

/-! ## Descriptors

A descriptor is an `L`, the internal name, in which slashes separate packages
from each other, and a semicolon.  A descriptor alone tells of no supertypes.
-/

def binaryName (internal : List Char) : List Char :=
  internal.map fun letter => if letter = '/' then '.' else letter

def internalName (binary : List Char) : List Char :=
  binary.map fun letter => if letter = '.' then '/' else letter

def descriptor (type : ClassType) : String :=
  String.ofList ('L' :: internalName type.name.toList ++ [';'])

/-- The internal name that stands between the `L` and the final semicolon of a descriptor. -/
def descriptorBody? : List Char → Option (List Char)
  | 'L' :: rest =>
      if rest.getLast? = some ';' ∧ rest.dropLast ≠ [] ∧ ';' ∉ rest.dropLast then
        some rest.dropLast
      else none
  | _ => none

def parse (text : String) : Except DescriptorFault ClassType :=
  match descriptorBody? text.toList with
  | some body => .ok { name := String.ofList (binaryName body) }
  | none => .error (.malformedReference text)

theorem descriptorBody?_eq_some_iff {text body : List Char} :
    descriptorBody? text = some body ↔
      text = 'L' :: body ++ [';'] ∧ body ≠ [] ∧ ';' ∉ body := by
  constructor
  · intro h
    unfold descriptorBody? at h
    split at h
    · rename_i rest
      split at h
      · rename_i hrest
        cases h
        refine ⟨?_, hrest.2⟩
        have hne : rest ≠ [] := by
          intro hnil
          simp [hnil] at hrest
        have hlast := List.dropLast_concat_getLast hne
        rw [List.getLast?_eq_some_getLast hne] at hrest
        simp only [Option.some.injEq] at hrest
        rw [hrest.1] at hlast
        simp [hlast]
      · cases h
    · cases h
  · rintro ⟨rfl, hne, hmem⟩
    simp [descriptorBody?, hne, hmem]

def inspected (type : ClassType) : String := "ReferenceType(" ++ type.name ++ ")"

end ClassType

end Delegation
