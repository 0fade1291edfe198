import Delegation.Criterion

/-!
# Resolvers

A resolver is a single comparison or a chain of resolvers, which is asked in
order until a member decides.  The leaves of a resolver may be of any type
that can be read as comparisons; in `Resolver Criterion` they are criteria.
A chain as a member of another chain counts as one member, but its leaves are
leaves of the outer chain as well.  The standard chain asks for priority, then
owner, argument types, name and arity.
-/

namespace Delegation

inductive Resolver (Leaf : Type) where
  | single (leaf : Leaf)
  | chain (members : List (Resolver Leaf))

structure Chain (Leaf : Type) where
  members : List (Resolver Leaf) := []

namespace Resolver

variable {Leaf : Type}

mutual

def comparison (interpret : Leaf → Comparison) : Resolver Leaf → Comparison
  | .single leaf => interpret leaf
  | .chain members => Comparison.inOrder (comparisons interpret members)

def comparisons (interpret : Leaf → Comparison) : List (Resolver Leaf) → List Comparison
  | [] => []
  | member :: members => comparison interpret member :: comparisons interpret members

end

theorem comparisons_eq_map (interpret : Leaf → Comparison) (members : List (Resolver Leaf)) :
    comparisons interpret members = members.map (comparison interpret) := by
  induction members with
  | nil => rfl
  | cons member members ih => rw [comparisons, ih, List.map_cons]

mutual

def leaves : Resolver Leaf → List Leaf
  | .single leaf => [leaf]
  | .chain members => leavesOfAll members

def leavesOfAll : List (Resolver Leaf) → List Leaf
  | [] => []
  | member :: members => leaves member ++ leavesOfAll members

end

theorem leavesOfAll_eq_flatMap (members : List (Resolver Leaf)) :
    leavesOfAll members = members.flatMap leaves := by
  induction members with
  | nil => rfl
  | cons member members ih => rw [leavesOfAll, ih, List.flatMap_cons]

end Resolver

namespace Chain

variable {Leaf : Type}

def add (chain : Chain Leaf) (resolver : Resolver Leaf) : Chain Leaf :=
  ⟨chain.members ++ [resolver]⟩

/-- Adds the members of the other chain one by one. -/
def append (chain other : Chain Leaf) : Chain Leaf :=
  ⟨chain.members ++ other.members⟩

def size (chain : Chain Leaf) : Nat := chain.members.length

def isEmpty (chain : Chain Leaf) : Bool := chain.members.isEmpty

def resolver (chain : Chain Leaf) : Resolver Leaf := .chain chain.members

def ofLeaves (leaves : List Leaf) : Chain Leaf := ⟨leaves.map .single⟩

def inspected (chain : Chain Leaf) : String :=
  "Compound \x7b resolvers: " ++ toString chain.size ++ " \x7d"

def standard : Chain Criterion :=
  ofLeaves [.priority, .owner, .argumentTypes, .name, .arity]

/-! ## Leaves of chains -/

theorem leaves_resolver (chain : Chain Leaf) :
    chain.resolver.leaves = chain.members.flatMap Resolver.leaves :=
  Resolver.leavesOfAll_eq_flatMap chain.members

@[simp] theorem leaves_add (chain : Chain Leaf) (resolver : Resolver Leaf) :
    (chain.add resolver).resolver.leaves = chain.resolver.leaves ++ resolver.leaves := by
  simp [leaves_resolver, add]

@[simp] theorem leaves_append (chain other : Chain Leaf) :
    (chain.append other).resolver.leaves = chain.resolver.leaves ++ other.resolver.leaves := by
  simp [leaves_resolver, append]

@[simp] theorem leaves_ofLeaves (leaves : List Leaf) :
    (ofLeaves leaves).resolver.leaves = leaves := by
  simp only [leaves_resolver, ofLeaves, List.flatMap_map]
  induction leaves with
  | nil => rfl
  | cons leaf leaves ih => rw [List.flatMap_cons, ih, Resolver.leaves, List.singleton_append]

/-! ## Chains of leaves -/

theorem ofLeaves_add_single (leaves : List Leaf) (leaf : Leaf) :
    (ofLeaves leaves).add (.single leaf) = ofLeaves (leaves ++ [leaf]) := by
  simp [ofLeaves, add]

/-- The leaves that are in the chain already stay in front. -/
theorem foldl_add_single {α : Type} (leafOf : α → Leaf) (leaves : List Leaf) (items : List α) :
    items.foldl (fun chain item => chain.add (.single (leafOf item))) (ofLeaves leaves) =
      ofLeaves (leaves ++ items.map leafOf) := by
  induction items generalizing leaves with
  | nil => rw [List.foldl_nil, List.map_nil, List.append_nil]
  | cons item items ih =>
      rw [List.foldl_cons, ofLeaves_add_single, ih, List.map_cons, List.append_assoc,
        List.singleton_append]

end Chain

end Delegation
