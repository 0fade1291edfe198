import Delegation.Method

/-!
# Bindings

A binding delegates to a target method and routes positions of the source
method's parameters to positions of the target's, as pairs of the two.
`Binding.ofRoutes` adds them one by one: each has to lead to a parameter of
the target, from a source position that no earlier one starts from.

Comparisons see no more of a binding than a `Candidate`, its target and a
lookup, so a candidate may also come from routes that nobody checked.
-/

namespace Delegation

structure Candidate where
  target : Method
  route : Nat → Option Nat

/-- The routes lead to parameters that the target has. -/
def Candidate.InRange (candidate : Candidate) : Prop :=
  ∀ source target, candidate.route source = some target → target < candidate.target.arity

structure Binding where
  target : Method
  routes : List (Nat × Nat)

inductive RouteFault where
  | targetOutOfRange (position : Nat) (target : Method)
  | sourceRoutedTwice (position : Nat) (target : Method)

def RouteFault.message : RouteFault → String
  | .targetOutOfRange position target =>
      "target index " ++ toString position ++ " out of range for " ++ target.text
  | .sourceRoutedTwice position target =>
      "source parameter " ++ toString position ++ " bound twice onto " ++ target.text

namespace Binding

def unbound (target : Method) : Binding := ⟨target, []⟩

/-- The first route from a source position counts. -/
def lookup (binding : Binding) (position : Nat) : Option Nat :=
  binding.routes.lookup position

def candidate (binding : Binding) : Candidate := ⟨binding.target, binding.lookup⟩

def routeCount (binding : Binding) : Nat := binding.routes.length

def addRoute (binding : Binding) (route : Nat × Nat) : Except RouteFault Binding :=
  if binding.target.arity ≤ route.2 then
    .error (.targetOutOfRange route.2 binding.target)
  else if (binding.lookup route.1).isSome then
    .error (.sourceRoutedTwice route.1 binding.target)
  else .ok { binding with routes := binding.routes ++ [route] }

def ofRoutes (target : Method) (routes : List (Nat × Nat)) : Except RouteFault Binding :=
  routes.foldlM addRoute (unbound target)

def identity (target : Method) : Binding :=
  ⟨target, (List.range target.arity).map fun position => (position, position)⟩

theorem mem_routes_of_lookup {binding : Binding} {source target : Nat}
    (h : binding.lookup source = some target) : (source, target) ∈ binding.routes := by
  obtain ⟨before, after, hroutes, _⟩ := List.lookup_eq_some_iff.mp h
  simp [hroutes]

theorem inRange_identity (target : Method) : (identity target).candidate.InRange := by
  intro source position hroute
  have hmem := mem_routes_of_lookup hroute
  simp only [identity, List.mem_map, List.mem_range, Prod.mk.injEq] at hmem
  obtain ⟨same, hlt, -, rfl⟩ := hmem
  exact hlt

end Binding

end Delegation
