import Delegation.Types.ParamType

/-!
# Methods

A method is described by the class that declares it, its name, the types of
its parameters in order and a priority as a delegation target.
-/

namespace Delegation

structure Method where
  owner : ClassType
  name : String
  parameters : List ParamType
  priority : Int := 1

/-- A parameter was asked for at a position that the method does not have. -/
structure MissingParameter where
  position : Nat
  method : Method

namespace Method

instance : BEq Method where
  beq first second :=
    first.owner == second.owner && first.name == second.name &&
      first.parameters == second.parameters && first.priority == second.priority

instance : Hashable Method where
  hash method :=
    mixHash (mixHash (hash method.owner) (hash method.name))
      (mixHash (hash method.parameters) (hash method.priority))

def arity (method : Method) : Nat := method.parameters.length

theorem lt_arity_of_mem_zipIdx {method : Method} {type : ParamType} {position : Nat}
    (h : (type, position) ∈ method.parameters.zipIdx) : position < method.arity :=
  (List.getElem?_eq_some_iff.mp (List.mk_mem_zipIdx_iff_getElem?.mp h)).1

def text (method : Method) : String :=
  method.owner.name ++ "." ++ method.name ++ "(" ++
    ", ".intercalate (method.parameters.map ParamType.text) ++ ")"

def parameter (method : Method) (position : Nat) : Except MissingParameter ParamType :=
  match method.parameters[position]? with
  | some type => .ok type
  | none => .error ⟨position, method⟩

end Method

def MissingParameter.message (missing : MissingParameter) : String :=
  "parameter index " ++ toString missing.position ++ " out of range for " ++
    missing.method.text ++ " with " ++ toString missing.method.arity ++ " parameters"

end Delegation
