import Mathlib.Data.List.Basic

/-!
# Items at positions

Some positions of a list, in whatever order, select the items that stand there.
Where the positions are in range none is lost, so the items are found one by
one as the positions are, and the positions of all items give the list back.
Positions without repetition are those of a sublist, or those of the whole list
in a new order.
-/

namespace Delegation.Choice

variable {α : Type}

/-- The items at the positions, in the order of the positions. -/
def itemsAt (items : List α) (positions : List Nat) : List α :=
  positions.filterMap fun position => items[position]?

theorem itemsAt_subset {items : List α} {positions : List Nat} :
    itemsAt items positions ⊆ items := by
  intro item hitem
  obtain ⟨position, -, hposition⟩ := List.mem_filterMap.mp hitem
  exact List.mem_of_getElem? hposition

/-! ## Positions in range -/

section

variable {items : List α} {positions : List Nat}
  (h : ∀ position ∈ positions, position < items.length)

include h

theorem map_some_itemsAt :
    (itemsAt items positions).map some = positions.map fun position => items[position]? := by
  rw [itemsAt, List.map_filterMap, ← List.filterMap_eq_map]
  apply List.filterMap_congr
  intro position hposition
  simp [h position hposition]

theorem getElem?_itemsAt (inner : Nat) :
    (itemsAt items positions)[inner]? =
      positions[inner]?.bind fun position => items[position]? := by
  have hinner := congrArg (fun found => found[inner]?.bind id) (map_some_itemsAt h)
  simpa only [List.getElem?_map, Option.bind_map, Function.id_comp, Option.bind_fun_some]
    using hinner

theorem length_itemsAt : (itemsAt items positions).length = positions.length := by
  simpa using congrArg List.length (map_some_itemsAt h)

theorem itemsAt_itemsAt (inner : List Nat) :
    itemsAt (itemsAt items positions) inner = itemsAt items (itemsAt positions inner) := by
  simp only [itemsAt, List.filterMap_filterMap]
  exact List.filterMap_congr fun position _ => getElem?_itemsAt h position

theorem itemsAt_eq_singleton_iff {item : α} :
    itemsAt items positions = [item] ↔
      ∃ position, positions = [position] ∧ items[position]? = some item := by
  rw [← List.map_inj_right (fun _ _ => Option.some.inj), map_some_itemsAt h, List.map_singleton,
    List.map_eq_singleton_iff]

end

/-! ## Different positions -/

/-- Positions of the list, none of them twice, in any order. -/
structure PositionsOf (items : List α) (positions : List Nat) : Prop where
  nodup : positions.Nodup
  lt : ∀ position ∈ positions, position < items.length

namespace PositionsOf

variable {items : List α} {positions : List Nat}

theorem of_sublist (h : positions.Sublist (List.range items.length)) :
    PositionsOf items positions where
  nodup := List.nodup_range.sublist h
  lt _ hposition := List.mem_range.mp (h.subset hposition)

theorem of_perm (h : positions.Perm (List.range items.length)) : PositionsOf items positions where
  nodup := h.nodup_iff.mpr List.nodup_range
  lt _ hposition := List.mem_range.mp (h.mem_iff.mp hposition)

theorem eq_of_getElem? (h : PositionsOf items positions) {first second position : Nat}
    (hfirst : positions[first]? = some position) (hsecond : positions[second]? = some position) :
    first = second := by
  have hlt := (List.getElem?_eq_some_iff.mp hfirst).1
  exact (List.getElem?_inj hlt h.nodup).mp (hfirst.trans hsecond.symm)

theorem getElem?_itemsAt (h : PositionsOf items positions) {inner position : Nat}
    (hposition : positions[inner]? = some position) :
    (itemsAt items positions)[inner]? = items[position]? := by
  rw [Choice.getElem?_itemsAt h.lt, hposition, Option.bind_some]

end PositionsOf

/-! ## All positions -/

theorem itemsAt_range (items : List α) : itemsAt items (List.range items.length) = items := by
  have hlt : ∀ position ∈ List.range items.length, position < items.length :=
    fun _ => List.mem_range.mp
  refine List.ext_getElem? fun position => ?_
  rw [getElem?_itemsAt hlt]
  by_cases hposition : position < items.length
  · rw [List.getElem?_range hposition, Option.bind_some]
  · simp [hposition]

/-- What is kept by its position is kept by what it is. -/
theorem itemsAt_filter_range (items : List α) {keepAt : Nat → Prop} {keep : α → Prop}
    [DecidablePred keepAt] [DecidablePred keep]
    (h : ∀ position item, items[position]? = some item → (keepAt position ↔ keep item)) :
    itemsAt items ((List.range items.length).filter keepAt) = items.filter keep := by
  conv_rhs => rw [← itemsAt_range items]
  rw [itemsAt, itemsAt, List.filterMap_filter, List.filter_filterMap]
  apply List.filterMap_congr
  intro position hposition
  have hitem := List.getElem?_eq_getElem (List.mem_range.mp hposition)
  simp [hitem, h position _ hitem, Option.filter]

end Delegation.Choice
