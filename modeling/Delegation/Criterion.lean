import Delegation.Comparison

/-!
# Criteria

The comparisons that chains are made of.  They prefer the target of higher
priority, the target declared by the more specific class, the target with the
more specific parameters, the target that is named like the source or the
target with more parameters.  `favour` prefers one side whatever the targets
are, and `abstain` knows nothing.

Exchanging the candidates swaps the verdict of every criterion but `favour`,
unless two classes of different names are assignable to each other.
-/

namespace Delegation

inductive Criterion where
  | priority
  | owner
  | argumentTypes
  | name
  | arity
  | favour (side : Side)
  | abstain
  deriving DecidableEq, Repr

def Criterion.comparison : Criterion → Comparison
  | .priority => .ofTargets fun _ left right =>
      Comparison.preferGreater left.priority right.priority
  | .owner => .ofTargets fun _ left right => Comparison.weighOwners left.owner right.owner
  | .argumentTypes => Comparison.argumentTypes
  | .name => .ofTargets fun source left right =>
      Comparison.preferGreater (left.name == source.name) (right.name == source.name)
  | .arity => .ofTargets fun _ left right => Comparison.preferGreater left.arity right.arity
  | .favour side => .constant (.favouring side)
  | .abstain => .constant .unknown

end Delegation
