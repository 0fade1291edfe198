import Delegation.Types.Primitive
import Delegation.Types.ClassType

/-!
# Parameter types

A parameter has a primitive or a class type, and as for class types `==`
compares classes by name.  `ParamType.compare` weighs the types that two
targets chose for one parameter of a source method.
-/

namespace Delegation

inductive ParamType where
  | primitive (kind : Primitive)
  | reference (type : ClassType)

namespace ParamType

def sameType : ParamType → ParamType → Bool
  | .primitive first, .primitive second => first == second
  | .reference first, .reference second => first == second
  | _, _ => false

instance : BEq ParamType where
  beq := sameType

instance : Hashable ParamType where
  hash
    | .primitive kind => mixHash 0 (hash kind)
    | .reference type => mixHash 1 (hash type)

def primitive? : ParamType → Option Primitive
  | .primitive kind => some kind
  | .reference _ => none

def reference? : ParamType → Option ClassType
  | .primitive _ => none
  | .reference type => some type

def isPrimitive (type : ParamType) : Bool := type.primitive?.isSome

def text : ParamType → String
  | .primitive kind => kind.keyword
  | .reference type => type.name

def descriptor : ParamType → String
  | .primitive kind => kind.letter.toString
  | .reference type => type.descriptor

/--
A text of more than one character that starts with `L` can only be the
descriptor of a class; any other text has to name a primitive kind.
-/
def parse (text : String) : Except DescriptorFault ParamType :=
  match text.toList with
  | 'L' :: _ :: _ => (ClassType.parse text).map .reference
  | _ => (Primitive.parse text).map .primitive

/-! ## Specificity -/

/--
Weighs the class types of two targets: the one assignable to the other is
preferred, and equal or unrelated types tie.
-/
def compareClasses (left right : ClassType) : Verdict :=
  if left == right then .ambiguous
  else if right.assignableFrom left then .left
  else if left.assignableFrom right then .right
  else .ambiguous

/--
Weighs the types that two targets chose for a source parameter.  Between a
primitive kind and a class the one of the source's own sort is preferred.
-/
def compare (source : ParamType) : ParamType → ParamType → Verdict
  | .primitive left, .primitive right => left.compare right
  | .reference left, .reference right => compareClasses left right
  | .primitive _, .reference _ => if source.isPrimitive then .left else .right
  | .reference _, .primitive _ => if source.isPrimitive then .right else .left

theorem compare_ne_unknown (source left right : ParamType) :
    compare source left right ≠ .unknown := by
  cases left <;> cases right <;>
    simp only [compare, compareClasses, Primitive.compare, ne_eq] <;> grind

theorem compare_congr_source {source other : ParamType}
    (h : source.isPrimitive = other.isPrimitive) (left right : ParamType) :
    compare source left right = compare other left right := by
  cases left <;> cases right <;> simp only [compare, h]

end ParamType

end Delegation
