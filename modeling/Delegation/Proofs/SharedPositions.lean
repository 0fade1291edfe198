import Delegation.Proofs.ArgumentTypes
import Delegation.Proofs.Assignability
import Mathlib.Data.List.Basic

/-!
# Shared positions

Argument types are weighed at the positions of the source that both candidates
route, and nowhere else.  A side is preferred exactly if there are such
positions and it is preferred at each of them.  Which types meet there is all
that counts: neither the order and the number of the positions nor anything
else about the source and the targets has an influence.
-/

namespace Delegation

instance (candidate : Candidate) (source : Method) : Decidable (candidate.InRangeFor source) :=
  inferInstanceAs (Decidable (∀ position < source.arity, ∀ target ∈ candidate.route position,
    target < candidate.target.arity))

theorem Candidate.InRangeFor.isSome_typeAt? {candidate : Candidate} {source : Method}
    (h : candidate.InRangeFor source) {position : Nat} (hposition : position < source.arity) :
    (candidate.typeAt? position).isSome = (candidate.route position).isSome := by
  cases hroute : candidate.route position with
  | none => simp [typeAt?, hroute]
  | some target =>
      obtain ⟨type, -, htype⟩ := h.typeAt?_eq_some hposition hroute
      simp [htype]

namespace Comparison

section

variable (source : Method) (left right : Candidate)

/-- The positions of the source's parameters that both candidates route, in order. -/
def sharedPositions : List Nat :=
  (List.range source.arity).filter fun position =>
    (left.route position).isSome && (right.route position).isSome

/-- The type of the source's parameter and those of the parameters it is routed to. -/
def typesAt? (position : Nat) : Option (ParamType × ParamType × ParamType) := do
  let type ← source.parameters[position]?
  let leftType ← left.typeAt? position
  let rightType ← right.typeAt? position
  some (type, leftType, rightType)

def verdictAt? (position : Nat) : Option Verdict :=
  (typesAt? source left right position).map fun (type, leftType, rightType) =>
    ParamType.compare type leftType rightType

/-- The types that meet at the shared positions, and whether the source's own is primitive. -/
def sharedTypes : List (Bool × ParamType × ParamType) :=
  (List.range source.arity).filterMap fun position =>
    (typesAt? source left right position).map fun (type, leftType, rightType) =>
      (type.isPrimitive, leftType, rightType)

end

variable {source : Method} {left right : Candidate}

theorem typesAt?_eq_some_iff {position : Nat} {type leftType rightType : ParamType} :
    typesAt? source left right position = some (type, leftType, rightType) ↔
      source.parameters[position]? = some type ∧ left.typeAt? position = some leftType ∧
        right.typeAt? position = some rightType := by
  simp only [typesAt?, Option.bind_eq_bind, Option.bind_eq_some_iff]
  constructor
  · rintro ⟨_, htype, _, hleft, _, hright, heq⟩
    cases heq
    exact ⟨htype, hleft, hright⟩
  · rintro ⟨htype, hleft, hright⟩
    exact ⟨type, htype, leftType, hleft, rightType, hright, rfl⟩

theorem verdictAt?_eq_some_iff {position : Nat} {verdict : Verdict} :
    verdictAt? source left right position = some verdict ↔
      ∃ type leftType rightType, source.parameters[position]? = some type ∧
        left.typeAt? position = some leftType ∧ right.typeAt? position = some rightType ∧
          ParamType.compare type leftType rightType = verdict := by
  simp only [verdictAt?, Option.map_eq_some_iff, Prod.exists, typesAt?_eq_some_iff, and_assoc]

/-! ## Verdicts at shared positions -/

theorem sharedVerdicts_eq_filterMap (source : Method) (left right : Candidate) :
    sharedVerdicts source left right =
      (List.range source.arity).filterMap (verdictAt? source left right) := by
  rw [sharedVerdicts, ← source.map_snd_zipIdx_parameters, List.filterMap_map]
  apply List.filterMap_congr
  rintro ⟨type, position⟩ hmem
  have htype : source.parameters[position]? = some type :=
    List.mk_mem_zipIdx_iff_getElem?.mp hmem
  simp only [Function.comp_apply, verdictAt?, typesAt?, htype, weighPosition]
  cases left.typeAt? position with
  | none => rfl
  | some leftType => cases right.typeAt? position <;> rfl

theorem mem_sharedVerdicts_iff {verdict : Verdict} :
    verdict ∈ sharedVerdicts source left right ↔
      ∃ position type leftType rightType,
        typesAt? source left right position = some (type, leftType, rightType) ∧
          ParamType.compare type leftType rightType = verdict := by
  simp only [sharedVerdicts_eq_filterMap, List.mem_filterMap, List.mem_range, verdictAt?,
    Option.map_eq_some_iff, Prod.exists]
  constructor
  · rintro ⟨position, -, type, leftType, rightType, htypes, hverdict⟩
    exact ⟨position, type, leftType, rightType, htypes, hverdict⟩
  · rintro ⟨position, type, leftType, rightType, htypes, hverdict⟩
    have hlt := (List.getElem?_eq_some_iff.mp (typesAt?_eq_some_iff.mp htypes).1).1
    exact ⟨position, hlt, type, leftType, rightType, htypes, hverdict⟩

theorem unknown_notMem_sharedVerdicts (source : Method) (left right : Candidate) :
    .unknown ∉ sharedVerdicts source left right := by
  rw [mem_sharedVerdicts_iff]
  rintro ⟨position, type, leftType, rightType, -, hverdict⟩
  exact ParamType.compare_ne_unknown type leftType rightType hverdict

section

variable (hleft : left.InRangeFor source) (hright : right.InRangeFor source)

include hleft hright

theorem isSome_verdictAt? {position : Nat} (h : position < source.arity) :
    (verdictAt? source left right position).isSome =
      ((left.route position).isSome && (right.route position).isSome) := by
  have htype : source.parameters[position]? = some source.parameters[position] :=
    List.getElem?_eq_getElem h
  rw [← hleft.isSome_typeAt? h, ← hright.isSome_typeAt? h, verdictAt?, typesAt?, htype]
  cases left.typeAt? position with
  | none => rfl
  | some leftType => cases right.typeAt? position <;> rfl

/-- Every shared position has its verdict, in order. -/
theorem map_verdictAt?_sharedPositions :
    (sharedPositions source left right).map (verdictAt? source left right) =
      (sharedVerdicts source left right).map some := by
  rw [sharedVerdicts_eq_filterMap, List.map_filterMap_some_eq_filter_map_isSome, List.filter_map,
    sharedPositions]
  refine congrArg _ (List.filter_congr fun position hposition => ?_)
  exact (isSome_verdictAt? hleft hright (List.mem_range.mp hposition)).symm

theorem sharedVerdicts_eq_nil_iff :
    sharedVerdicts source left right = [] ↔ sharedPositions source left right = [] := by
  rw [← List.map_eq_nil_iff (f := some), ← map_verdictAt?_sharedPositions hleft hright,
    List.map_eq_nil_iff]

theorem forall_mem_sharedVerdicts_iff {verdict : Verdict} :
    (∀ other ∈ sharedVerdicts source left right, other = verdict) ↔
      ∀ position ∈ sharedPositions source left right,
        verdictAt? source left right position = some verdict := by
  have hmap := map_verdictAt?_sharedPositions hleft hright
  constructor
  · intro hall position hposition
    have hmem := hmap ▸ List.mem_map_of_mem hposition
    obtain ⟨other, hother, hverdict⟩ := List.mem_map.mp hmem
    rw [← hverdict, hall other hother]
  · intro hall other hother
    have hmem := hmap ▸ List.mem_map_of_mem hother
    obtain ⟨position, hposition, hverdict⟩ := List.mem_map.mp hmem
    exact Option.some.inj (hverdict.symm.trans (hall position hposition))

theorem outcome_argumentTypes_eq_unknown_iff :
    (argumentTypes source left right).outcome = .ok .unknown ↔
      sharedPositions source left right = [] := by
  rw [outcome_argumentTypes_of_inRangeFor hleft hright, Except.ok.injEq,
    Verdict.joinAll_eq_unknown_iff, ← sharedVerdicts_eq_nil_iff hleft hright]
  constructor
  · intro hall
    refine List.eq_nil_iff_forall_not_mem.mpr fun verdict hverdict => ?_
    exact unknown_notMem_sharedVerdicts source left right (hall verdict hverdict ▸ hverdict)
  · intro hnil verdict hverdict
    rw [hnil] at hverdict
    cases hverdict

theorem outcome_argumentTypes_eq_favouring_iff (side : Side) :
    (argumentTypes source left right).outcome = .ok (.favouring side) ↔
      sharedPositions source left right ≠ [] ∧
        ∀ position ∈ sharedPositions source left right,
          verdictAt? source left right position = some (.favouring side) := by
  rw [outcome_argumentTypes_of_inRangeFor hleft hright, Except.ok.injEq,
    Verdict.joinAll_eq_favouring_iff, ← forall_mem_sharedVerdicts_iff hleft hright, Ne,
    ← sharedVerdicts_eq_nil_iff hleft hright]
  constructor
  · rintro ⟨hmem, hall⟩
    refine ⟨List.ne_nil_of_mem hmem, fun verdict hverdict => ?_⟩
    refine (hall verdict hverdict).resolve_left ?_
    rintro rfl
    exact unknown_notMem_sharedVerdicts source left right hverdict
  · rintro ⟨hne, hall⟩
    obtain ⟨verdict, hverdict⟩ := List.exists_mem_of_ne_nil _ hne
    exact ⟨hall verdict hverdict ▸ hverdict, fun other hother => .inr (hall other hother)⟩

/--
The comparison of argument types joins the verdicts at the shared positions.  Nothing is known
without such positions, a side is preferred if it is at all of them, and else there is a tie.
-/
theorem outcome_argumentTypes_shared :
    ((argumentTypes source left right).outcome =
        .ok (Verdict.joinAll (sharedVerdicts source left right)) ∧
      (sharedPositions source left right).map (verdictAt? source left right) =
        (sharedVerdicts source left right).map some) ∧
    ((argumentTypes source left right).outcome = .ok .unknown ↔
      sharedPositions source left right = []) ∧
    (∀ side, (argumentTypes source left right).outcome = .ok (.favouring side) ↔
      sharedPositions source left right ≠ [] ∧
        ∀ position ∈ sharedPositions source left right,
          verdictAt? source left right position = some (.favouring side)) ∧
    ((argumentTypes source left right).outcome = .ok .ambiguous ↔
      sharedPositions source left right ≠ [] ∧
        ∀ side, ∃ position ∈ sharedPositions source left right,
          verdictAt? source left right position ≠ some (.favouring side)) := by
  have hunknown := outcome_argumentTypes_eq_unknown_iff hleft hright
  have hside := outcome_argumentTypes_eq_favouring_iff hleft hright
  have hjoin := outcome_argumentTypes_of_inRangeFor hleft hright
  refine ⟨⟨hjoin, map_verdictAt?_sharedPositions hleft hright⟩, hunknown, hside, ?_⟩
  have hrest : Verdict.joinAll (sharedVerdicts source left right) = .ambiguous ↔
      Verdict.joinAll (sharedVerdicts source left right) ≠ .unknown ∧
        ∀ side, Verdict.joinAll (sharedVerdicts source left right) ≠ .favouring side :=
    Verdict.eq_ambiguous_iff
  simp only [hjoin, Except.ok.injEq] at hunknown hside ⊢
  rw [hrest, Ne, hunknown]
  refine and_congr_right fun hne => forall_congr' fun side => ?_
  rw [Ne, hside]
  simp [hne]

end

def receiving : Method :=
  { owner := .root, name := "receive",
    parameters := [.primitive .int, .reference .integer, .primitive .long] }

/-- The last route leads nowhere, from a position that the source does not have. -/
def crossing : Candidate :=
  (Binding.mk
    { owner := .root, name := "cross", parameters := [.reference .integer, .primitive .int] }
    [(0, 1), (1, 0), (7, 9)]).candidate

def converging : Candidate :=
  (Binding.mk { owner := .root, name := "converge", parameters := [.reference .number] }
    [(0, 0), (1, 0), (2, 0)]).candidate

theorem outcome_argumentTypes_shared_crossing :
    crossing.InRangeFor receiving ∧ converging.InRangeFor receiving ∧
      sharedPositions receiving crossing converging = [0, 1] ∧
      (argumentTypes receiving crossing converging).outcome = .ok .left := by
  have hcrossing : crossing.InRangeFor receiving := by decide
  have hconverging : converging.InRangeFor receiving := by decide
  have hpositions : ∀ position ∈ sharedPositions receiving crossing converging,
      verdictAt? receiving crossing converging position = some .left := by decide
  have hspec := outcome_argumentTypes_shared hcrossing hconverging
  exact ⟨hcrossing, hconverging, rfl, (hspec.2.2.1 .left).mpr ⟨by decide, hpositions⟩⟩

/-! ## Two runs -/

theorem mem_sharedTypes_iff {isPrimitive : Bool} {leftType rightType : ParamType} :
    (isPrimitive, leftType, rightType) ∈ sharedTypes source left right ↔
      ∃ position type, typesAt? source left right position = some (type, leftType, rightType) ∧
        type.isPrimitive = isPrimitive := by
  simp only [sharedTypes, List.mem_filterMap, List.mem_range, Option.map_eq_some_iff, Prod.exists,
    Prod.mk.injEq]
  constructor
  · rintro ⟨position, -, type, _, _, htypes, hprimitive, rfl, rfl⟩
    exact ⟨position, type, htypes, hprimitive⟩
  · rintro ⟨position, type, htypes, hprimitive⟩
    have hlt := (List.getElem?_eq_some_iff.mp (typesAt?_eq_some_iff.mp htypes).1).1
    exact ⟨position, hlt, type, leftType, rightType, htypes, hprimitive, rfl, rfl⟩

section

variable {other : Method} {otherLeft otherRight : Candidate}

/-- Of the source's parameter a verdict depends on nothing but whether its type is primitive. -/
theorem mem_sharedVerdicts_of_sharedTypes_subset
    (h : ∀ types ∈ sharedTypes source left right, types ∈ sharedTypes other otherLeft otherRight)
    {verdict : Verdict} (hverdict : verdict ∈ sharedVerdicts source left right) :
    verdict ∈ sharedVerdicts other otherLeft otherRight := by
  obtain ⟨position, type, leftType, rightType, htypes, rfl⟩ := mem_sharedVerdicts_iff.mp hverdict
  have hmem := h _ (mem_sharedTypes_iff.mpr ⟨position, type, htypes, rfl⟩)
  obtain ⟨otherPosition, otherType, hother, hprimitive⟩ := mem_sharedTypes_iff.mp hmem
  exact mem_sharedVerdicts_iff.mpr ⟨otherPosition, otherType, leftType, rightType, hother,
    ParamType.compare_congr_source hprimitive leftType rightType⟩

/-- Two comparisons of argument types in which the same types meet come to the same verdict. -/
theorem outcome_argumentTypes_of_same_sharedTypes (hleft : left.InRangeFor source)
    (hright : right.InRangeFor source) (hotherLeft : otherLeft.InRangeFor other)
    (hotherRight : otherRight.InRangeFor other)
    (h : ∀ types, types ∈ sharedTypes source left right ↔
      types ∈ sharedTypes other otherLeft otherRight) :
    ∃ verdict, (argumentTypes source left right).outcome = .ok verdict ∧
      (argumentTypes other otherLeft otherRight).outcome = .ok verdict := by
  have hverdicts : Verdict.joinAll (sharedVerdicts source left right) =
      Verdict.joinAll (sharedVerdicts other otherLeft otherRight) := by
    refine Verdict.joinAll_congr fun verdict => ⟨?_, ?_⟩
    · exact mem_sharedVerdicts_of_sharedTypes_subset fun types => (h types).mp
    · exact mem_sharedVerdicts_of_sharedTypes_subset fun types => (h types).mpr
  refine ⟨_, outcome_argumentTypes_of_inRangeFor hleft hright, ?_⟩
  rw [outcome_argumentTypes_of_inRangeFor hotherLeft hotherRight, hverdicts]

end

/-- Types of the sorts of `receiving`'s first two parameters, the other way round and repeated. -/
def reordered : Method :=
  { owner := .number, name := "reorder", priority := 5,
    parameters := [.reference .comparable, .primitive .char, .primitive .boolean] }

def straight : Candidate :=
  (Binding.mk
    { owner := .integer, name := "follow", priority := -1,
      parameters := [.reference .integer, .primitive .float, .primitive .int] }
    [(0, 0), (1, 2), (2, 2)]).candidate

theorem outcome_argumentTypes_of_same_sharedTypes_reordered :
    ∃ verdict, (argumentTypes receiving crossing converging).outcome = .ok verdict ∧
      (argumentTypes reordered straight converging).outcome = .ok verdict := by
  have hfirst : sharedTypes receiving crossing converging =
      [(true, .primitive .int, .reference .number),
        (false, .reference .integer, .reference .number)] := rfl
  have hsecond : sharedTypes reordered straight converging =
      [(false, .reference .integer, .reference .number),
        (true, .primitive .int, .reference .number),
        (true, .primitive .int, .reference .number)] := rfl
  refine outcome_argumentTypes_of_same_sharedTypes (by decide) (by decide) (by decide) (by decide)
    fun types => ?_
  rw [hfirst, hsecond]
  simp [or_comm]

end Comparison

end Delegation
