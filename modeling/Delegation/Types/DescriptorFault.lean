/-!
# Faults of descriptors

A text that names no type is refused with the text itself.
-/

namespace Delegation

inductive DescriptorFault where
  | unknownPrimitive (text : String)
  | malformedReference (text : String)
  deriving DecidableEq, Repr

def DescriptorFault.message : DescriptorFault → String
  | .unknownPrimitive text => "unknown primitive type `" ++ text ++ "`"
  | .malformedReference text => "malformed reference descriptor `" ++ text ++ "`"

end Delegation
