import Delegation.Binding
import Mathlib.Data.List.Nodup
import Mathlib.Data.Nat.Find

/-!
# Routes that make a binding

Routes are added one by one.  The first that leads to no parameter of the
target, or starts from a position that an earlier one starts from, is refused
and ends the building.  Where there is none, the binding holds all routes as
they are given, so every order of them makes a binding with the same lookups.
-/

namespace Delegation

namespace Binding

def RoutesInRange (binding : Binding) : Prop :=
  ∀ route ∈ binding.routes, route.2 < binding.target.arity

/-- Every route leads to a parameter of the target, and no two start from the same position. -/
structure Admissible (target : Method) (routes : List (Nat × Nat)) : Prop where
  inRange : ∀ route ∈ routes, route.2 < target.arity
  nodup : (routes.map Prod.fst).Nodup

/-- The route at the position leads to no parameter of the target. -/
def StrayAt (target : Method) (routes : List (Nat × Nat)) (position : Nat) : Prop :=
  ∃ route ∈ routes[position]?, target.arity ≤ route.2

/-- The route at the position starts where an earlier one does. -/
def RepeatAt (routes : List (Nat × Nat)) (position : Nat) : Prop :=
  ∃ route ∈ routes[position]?, ∃ earlier ∈ routes.take position, earlier.1 = route.1

instance (target : Method) (routes : List (Nat × Nat)) (position : Nat) :
    Decidable (StrayAt target routes position) :=
  inferInstanceAs (Decidable (∃ route ∈ routes[position]?, target.arity ≤ route.2))

instance (routes : List (Nat × Nat)) (position : Nat) : Decidable (RepeatAt routes position) :=
  inferInstanceAs (Decidable (∃ route ∈ routes[position]?,
    ∃ earlier ∈ routes.take position, earlier.1 = route.1))

variable {target : Method} {routes : List (Nat × Nat)}

/-! ## Lookups among admissible routes -/

theorem Admissible.perm (h : Admissible target routes) {reordered : List (Nat × Nat)}
    (hperm : reordered.Perm routes) : Admissible target reordered where
  inRange route hroute := h.inRange route (hperm.mem_iff.mp hroute)
  nodup := (hperm.map Prod.fst).nodup_iff.mpr h.nodup

theorem Admissible.ne_of_mem_before {before after : List (Nat × Nat)} {route earlier : Nat × Nat}
    (h : Admissible target (before ++ route :: after)) (hearlier : earlier ∈ before) :
    earlier.1 ≠ route.1 := by
  have hnodup := h.nodup
  rw [List.map_append, List.nodup_append] at hnodup
  exact hnodup.2.2 earlier.1 (List.mem_map_of_mem hearlier) route.1 (by simp)

theorem lookup_eq_none_iff {binding : Binding} {source : Nat} :
    binding.lookup source = none ↔ ∀ route ∈ binding.routes, route.1 ≠ source := by
  simp only [lookup, List.lookup_eq_none_iff, bne_iff_ne, ne_comm]

theorem Admissible.lookup_eq_some_iff (h : Admissible target routes) {source position : Nat} :
    lookup ⟨target, routes⟩ source = some position ↔ (source, position) ∈ routes := by
  constructor
  · exact mem_routes_of_lookup
  · intro hmem
    obtain ⟨before, after, rfl⟩ := List.append_of_mem hmem
    refine List.lookup_eq_some_iff.mpr ⟨before, after, rfl, fun earlier hearlier => ?_⟩
    exact bne_iff_ne.mpr (h.ne_of_mem_before hearlier).symm

/-! ## Adding routes -/

theorem addRoute_eq_ok_iff {binding next : Binding} {route : Nat × Nat} :
    binding.addRoute route = .ok next ↔
      route.2 < binding.target.arity ∧ binding.lookup route.1 = none ∧
        next = { binding with routes := binding.routes ++ [route] } := by
  unfold addRoute
  by_cases hrange : binding.target.arity ≤ route.2
  · simp [hrange, Nat.not_lt.mpr hrange]
  · cases hlookup : binding.lookup route.1 with
    | some position => simp [hrange]
    | none =>
        have hlt : route.2 < binding.target.arity := by omega
        simp [hrange, hlt, eq_comm]

/-- The induction is on the routes to come, behind those that the binding has already. -/
theorem foldlM_addRoute_of_admissible {before : List (Nat × Nat)}
    (h : Admissible target (before ++ routes)) :
    routes.foldlM addRoute ⟨target, before⟩ = .ok ⟨target, before ++ routes⟩ := by
  induction routes generalizing before with
  | nil => simp [pure, Except.pure]
  | cons route routes ih =>
      have hlt : route.2 < target.arity := h.inRange route (by simp)
      have hfresh : lookup ⟨target, before⟩ route.1 = none :=
        lookup_eq_none_iff.mpr fun _ => h.ne_of_mem_before
      have hadded : addRoute ⟨target, before⟩ route = .ok ⟨target, before ++ [route]⟩ :=
        addRoute_eq_ok_iff.mpr ⟨hlt, hfresh, rfl⟩
      rw [List.append_cons] at h ⊢
      rw [List.foldlM_cons, hadded]
      exact ih h

theorem ofRoutes_of_admissible (h : Admissible target routes) :
    ofRoutes target routes = .ok ⟨target, routes⟩ :=
  foldlM_addRoute_of_admissible h

theorem ofRoutes_of_fault {before after : List (Nat × Nat)} {route : Nat × Nat}
    {fault : RouteFault} (h : Admissible target before)
    (hfault : addRoute ⟨target, before⟩ route = .error fault) :
    ofRoutes target (before ++ route :: after) = .error fault := by
  have hbefore := ofRoutes_of_admissible h
  rw [ofRoutes] at hbefore ⊢
  rw [List.foldlM_append, hbefore]
  change (route :: after).foldlM addRoute _ = _
  rw [List.foldlM_cons, hfault]
  rfl

/-! ## The first fault -/

theorem admissible_iff :
    Admissible target routes ↔
      ∀ position, ¬ (StrayAt target routes position ∨ RepeatAt routes position) := by
  constructor
  · rintro h position (⟨route, hroute, hle⟩ | ⟨route, hroute, earlier, hearlier, hsame⟩)
    · exact Nat.not_lt.mpr hle (h.inRange route (List.mem_of_getElem? hroute))
    · obtain ⟨hlt, rfl⟩ := List.getElem?_eq_some_iff.mp hroute
      rw [← List.take_append_drop position routes, List.drop_eq_getElem_cons hlt] at h
      exact h.ne_of_mem_before hearlier hsame
  · intro hnone
    constructor
    · intro route hroute
      obtain ⟨position, hposition⟩ := List.mem_iff_getElem?.mp hroute
      by_contra hstray
      exact hnone position (.inl ⟨route, hposition, Nat.not_lt.mp hstray⟩)
    · rw [List.Nodup, List.pairwise_map, List.pairwise_iff_getElem]
      intro first second hfirst hsecond hlt hsame
      refine hnone second (.inr ⟨routes[second], List.getElem?_eq_getElem hsecond,
        routes[first], ?_, hsame⟩)
      exact List.mem_take_iff_getElem.mpr ⟨first, by omega, rfl⟩

theorem admissible_take {position : Nat}
    (h : ∀ earlier < position, ¬ (StrayAt target routes earlier ∨ RepeatAt routes earlier)) :
    Admissible target (routes.take position) := by
  rw [admissible_iff]
  rintro earlier (⟨route, hroute, hle⟩ | ⟨route, hroute, another, hanother, hsame⟩)
  · rw [Option.mem_def, List.getElem?_take, Option.ite_none_right_eq_some] at hroute
    exact h earlier hroute.1 (.inl ⟨route, hroute.2, hle⟩)
  · rw [Option.mem_def, List.getElem?_take, Option.ite_none_right_eq_some] at hroute
    rw [List.take_take, Nat.min_eq_left (Nat.le_of_lt hroute.1)] at hanother
    exact h earlier hroute.1 (.inr ⟨route, hroute.2, another, hanother, hsame⟩)

section

variable {position : Nat} {route : Nat × Nat} (hroute : routes[position]? = some route)
  (hfirst : ∀ earlier < position, ¬ (StrayAt target routes earlier ∨ RepeatAt routes earlier))

include hroute hfirst

theorem ofRoutes_of_first_fault {fault : RouteFault}
    (hfault : addRoute ⟨target, routes.take position⟩ route = .error fault) :
    ofRoutes target routes = .error fault := by
  obtain ⟨hlt, rfl⟩ := List.getElem?_eq_some_iff.mp hroute
  have hsplit := List.take_append_drop position routes
  rw [List.drop_eq_getElem_cons hlt] at hsplit
  rw [← hsplit]
  exact ofRoutes_of_fault (admissible_take hfirst) hfault

theorem ofRoutes_of_first_stray (hstray : StrayAt target routes position) :
    ofRoutes target routes = .error (.targetOutOfRange route.2 target) := by
  obtain ⟨stray, hstray, hle⟩ := hstray
  cases hroute.symm.trans hstray
  exact ofRoutes_of_first_fault hroute hfirst (if_pos hle)

theorem ofRoutes_of_first_repeat (hrepeat : RepeatAt routes position)
    (hnot : ¬ StrayAt target routes position) :
    ofRoutes target routes = .error (.sourceRoutedTwice route.1 target) := by
  obtain ⟨repeated, hrepeated, earlier, hearlier, hsame⟩ := hrepeat
  cases hroute.symm.trans hrepeated
  have hlt : ¬ target.arity ≤ route.2 := fun hle => hnot ⟨route, hroute, hle⟩
  have htaken : (lookup ⟨target, routes.take position⟩ route.1).isSome = true := by
    rw [Option.isSome_iff_ne_none, Ne, lookup_eq_none_iff]
    exact fun hfresh => hfresh earlier hearlier hsame
  exact ofRoutes_of_first_fault hroute hfirst (by rw [addRoute, if_neg hlt, if_pos htaken])

end

theorem ofRoutes_eq_error_iff :
    (∃ fault, ofRoutes target routes = .error fault) ↔
      ∃ position, StrayAt target routes position ∨ RepeatAt routes position := by
  constructor
  · rintro ⟨fault, hfault⟩
    by_contra hnone
    rw [ofRoutes_of_admissible (admissible_iff.mpr (not_exists.mp hnone))] at hfault
    cases hfault
  · intro hsome
    have hfirst : ∀ earlier < Nat.find hsome,
        ¬ (StrayAt target routes earlier ∨ RepeatAt routes earlier) :=
      fun earlier => Nat.find_min hsome
    by_cases hstray : StrayAt target routes (Nat.find hsome)
    · obtain ⟨route, hroute, -⟩ := id hstray
      exact ⟨_, ofRoutes_of_first_stray hroute hfirst hstray⟩
    · have hrepeat := (Nat.find_spec hsome).resolve_left hstray
      obtain ⟨route, hroute, -⟩ := id hrepeat
      exact ⟨_, ofRoutes_of_first_repeat hroute hfirst hrepeat hstray⟩

theorem ofRoutes_eq_ok_iff {binding : Binding} :
    ofRoutes target routes = .ok binding ↔
      Admissible target routes ∧ binding = ⟨target, routes⟩ := by
  constructor
  · intro hadded
    have hroutes : Admissible target routes := by
      rw [admissible_iff, ← not_exists, ← ofRoutes_eq_error_iff, hadded]
      rintro ⟨fault, hfault⟩
      cases hfault
    rw [ofRoutes_of_admissible hroutes] at hadded
    exact ⟨hroutes, (Except.ok.inj hadded).symm⟩
  · rintro ⟨hroutes, rfl⟩
    exact ofRoutes_of_admissible hroutes

/--
Routes are refused at the first that leads to no parameter of the target or starts where an
earlier one does, for the former reason if both hold.  Any others make a binding that leads where
they say and from nowhere else, whatever their order.
-/
theorem ofRoutes_exact (target : Method) (routes : List (Nat × Nat)) :
    ((∃ fault, ofRoutes target routes = .error fault) ↔
      ∃ position, StrayAt target routes position ∨ RepeatAt routes position) ∧
    (∀ position route, routes[position]? = some route →
      (∀ earlier < position, ¬ (StrayAt target routes earlier ∨ RepeatAt routes earlier)) →
        (StrayAt target routes position →
          (ofRoutes target routes).mapError RouteFault.message =
            .error ("target index " ++ toString route.2 ++ " out of range for " ++
              target.text)) ∧
        (RepeatAt routes position → ¬ StrayAt target routes position →
          (ofRoutes target routes).mapError RouteFault.message =
            .error ("source parameter " ++ toString route.1 ++ " bound twice onto " ++
              target.text))) ∧
    ((∀ position, ¬ (StrayAt target routes position ∨ RepeatAt routes position)) →
      ∃ binding, ofRoutes target routes = .ok binding ∧ binding.target = target ∧
        binding.routeCount = routes.length ∧
        (∀ source position, binding.lookup source = some position ↔
          (source, position) ∈ routes) ∧
        (∀ source, binding.lookup source = none ↔ ∀ route ∈ routes, route.1 ≠ source) ∧
        binding.RoutesInRange ∧
        ∀ reordered : List (Nat × Nat), reordered.Perm routes →
          ∃ other, ofRoutes target reordered = .ok other ∧ other.target = target ∧
            ∀ source, other.lookup source = binding.lookup source) := by
  refine ⟨ofRoutes_eq_error_iff, ?_, ?_⟩
  · intro position route hroute hfirst
    constructor
    · intro hstray
      rw [ofRoutes_of_first_stray hroute hfirst hstray]
      rfl
    · intro hrepeat hnot
      rw [ofRoutes_of_first_repeat hroute hfirst hrepeat hnot]
      rfl
  · intro hnone
    have hroutes := admissible_iff.mpr hnone
    refine ⟨_, ofRoutes_of_admissible hroutes, rfl, rfl, fun _ _ => hroutes.lookup_eq_some_iff,
      fun _ => lookup_eq_none_iff, hroutes.inRange, fun reordered hperm => ?_⟩
    refine ⟨_, ofRoutes_of_admissible (hroutes.perm hperm), rfl, fun source => ?_⟩
    refine Option.ext fun position => ?_
    rw [(hroutes.perm hperm).lookup_eq_some_iff, hroutes.lookup_eq_some_iff, hperm.mem_iff]

end Binding

def pairing : Method :=
  { owner := .root, name := "pair", parameters := [.primitive .int, .reference .root] }

/-- The second route has both faults; two others may be added in either order. -/
theorem Binding.ofRoutes_exact_pairing :
    (Binding.ofRoutes pairing [(0, 1), (0, 5), (7, 2)]).mapError RouteFault.message =
        .error ("target index 5 out of range for " ++ pairing.text) ∧
      ∃ binding, Binding.ofRoutes pairing [(1, 0), (7, 1)] = .ok binding ∧
        ∃ other, Binding.ofRoutes pairing [(7, 1), (1, 0)] = .ok other ∧
          ∀ source, other.lookup source = binding.lookup source := by
  have hrefused := Binding.ofRoutes_exact pairing [(0, 1), (0, 5), (7, 2)]
  have hadded := Binding.ofRoutes_exact pairing [(1, 0), (7, 1)]
  constructor
  · exact (hrefused.2.1 1 (0, 5) rfl (by decide)).1 (by decide)
  · obtain ⟨binding, hbinding, -, -, -, -, -, hreordered⟩ :=
      hadded.2.2 (Binding.admissible_iff.mp ⟨by decide, by decide⟩)
    obtain ⟨other, hother, -, hsame⟩ := hreordered [(7, 1), (1, 0)] (by decide)
    exact ⟨binding, hbinding, other, hother, hsame⟩

end Delegation
