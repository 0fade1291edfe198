/-!
# Verdicts

Weighing a left candidate against a right one ends in one of four verdicts:
one of the two is preferred, nothing is known about them, or what is known
ties or conflicts.  Verdicts form a commutative idempotent monoid under
`Verdict.join`: `unknown` is the identity, `ambiguous` absorbs everything, and
the two sides together are ambiguous.
-/

namespace Delegation

inductive Side where
  | left
  | right
  deriving DecidableEq, Repr

namespace Side

def text : Side → String
  | .left => "left"
  | .right => "right"

end Side

inductive Verdict where
  | unknown
  | left
  | right
  | ambiguous
  deriving DecidableEq, Repr

namespace Verdict

def all : List Verdict := [.unknown, .left, .right, .ambiguous]

def text : Verdict → String
  | .unknown => "unknown"
  | .left => "left"
  | .right => "right"
  | .ambiguous => "ambiguous"

def favouring : Side → Verdict
  | .left => .left
  | .right => .right

/-- The side that the verdict prefers. -/
def side? : Verdict → Option Side
  | .left => some .left
  | .right => some .right
  | .unknown | .ambiguous => none

def isDecided : Verdict → Bool
  | .left | .right => true
  | .unknown | .ambiguous => false

/-- The verdict on the same pair with its two sides exchanged. -/
def swap : Verdict → Verdict
  | .left => .right
  | .right => .left
  | undecided => undecided

def join : Verdict → Verdict → Verdict
  | .unknown, other => other
  | verdict, .unknown => verdict
  | .left, .left => .left
  | .right, .right => .right
  | _, _ => .ambiguous

def joinAll (verdicts : List Verdict) : Verdict :=
  verdicts.foldl join .unknown

/-! ## The algebra of verdicts -/

@[simp] theorem unknown_join (verdict : Verdict) : unknown.join verdict = verdict := by
  cases verdict <;> rfl

@[simp] theorem join_unknown (verdict : Verdict) : verdict.join unknown = verdict := by
  cases verdict <;> rfl

theorem join_comm (first second : Verdict) : first.join second = second.join first := by
  cases first <;> cases second <;> rfl

theorem join_assoc (first second third : Verdict) :
    (first.join second).join third = first.join (second.join third) := by
  cases first <;> cases second <;> cases third <;> rfl

@[simp] theorem swap_swap (verdict : Verdict) : verdict.swap.swap = verdict := by
  cases verdict <;> rfl

theorem swap_join (first second : Verdict) :
    (first.join second).swap = first.swap.join second.swap := by
  cases first <;> cases second <;> rfl

@[simp] theorem isDecided_swap (verdict : Verdict) :
    verdict.swap.isDecided = verdict.isDecided := by
  cases verdict <;> rfl

theorem side?_eq_some_iff {verdict : Verdict} {side : Side} :
    verdict.side? = some side ↔ verdict = favouring side := by
  cases verdict <;> cases side <;> decide

theorem side?_eq_none_iff {verdict : Verdict} :
    verdict.side? = none ↔ verdict.isDecided = false := by
  cases verdict <;> decide

theorem eq_or_undecided_of_side?_eq {first second : Verdict} (h : first.side? = second.side?) :
    first = second ∨ first.isDecided = false ∧ second.isDecided = false := by
  cases hside : second.side? with
  | none =>
      rw [hside] at h
      exact .inr ⟨side?_eq_none_iff.mp h, side?_eq_none_iff.mp hside⟩
  | some side =>
      rw [hside] at h
      exact .inl ((side?_eq_some_iff.mp h).trans (side?_eq_some_iff.mp hside).symm)

@[simp] theorem joinAll_nil : joinAll [] = unknown := rfl

private theorem foldl_join (verdicts : List Verdict) (start : Verdict) :
    verdicts.foldl join start = start.join (joinAll verdicts) := by
  induction verdicts generalizing start with
  | nil => simp
  | cons verdict verdicts ih =>
      simp only [joinAll, List.foldl_cons, unknown_join] at ih ⊢
      rw [ih (start.join verdict), ih verdict, join_assoc]

@[simp] theorem joinAll_cons (verdict : Verdict) (verdicts : List Verdict) :
    joinAll (verdict :: verdicts) = verdict.join (joinAll verdicts) := by
  rw [joinAll, List.foldl_cons, unknown_join, foldl_join]

theorem swap_joinAll (verdicts : List Verdict) :
    (joinAll verdicts).swap = joinAll (verdicts.map swap) := by
  induction verdicts with
  | nil => rfl
  | cons verdict verdicts ih => rw [joinAll_cons, swap_join, ih, List.map_cons, joinAll_cons]

/-! ## What a list of verdicts joins to -/

theorem favouring_ne_unknown (side : Side) : favouring side ≠ unknown := by
  cases side <;> decide

/-- Whether it is unknown and which side it prefers tells a verdict from every other one. -/
theorem eq_of_iff {first second : Verdict} (hunknown : first = unknown ↔ second = unknown)
    (hside : ∀ side, first = favouring side ↔ second = favouring side) : first = second := by
  have hleft := hside .left
  have hright := hside .right
  revert hunknown hleft hright
  cases first <;> cases second <;> decide

theorem eq_ambiguous_iff {verdict : Verdict} :
    verdict = ambiguous ↔ verdict ≠ unknown ∧ ∀ side, verdict ≠ favouring side := by
  constructor
  · rintro rfl
    exact ⟨by decide, fun side => by cases side <;> decide⟩
  · rintro ⟨hunknown, hside⟩
    have hleft := hside .left
    have hright := hside .right
    revert hunknown hleft hright
    cases verdict <;> decide

theorem join_eq_unknown_iff {first second : Verdict} :
    first.join second = unknown ↔ first = unknown ∧ second = unknown := by
  cases first <;> cases second <;> decide

theorem join_eq_favouring_iff {first second : Verdict} {side : Side} :
    first.join second = favouring side ↔
      first = favouring side ∧ (second = unknown ∨ second = favouring side) ∨
        first = unknown ∧ second = favouring side := by
  cases side <;> cases first <;> cases second <;> decide

theorem joinAll_eq_unknown_iff {verdicts : List Verdict} :
    joinAll verdicts = unknown ↔ ∀ verdict ∈ verdicts, verdict = unknown := by
  induction verdicts with
  | nil => simp
  | cons verdict verdicts ih => rw [joinAll_cons, join_eq_unknown_iff, ih, List.forall_mem_cons]

theorem joinAll_eq_favouring_iff {verdicts : List Verdict} {side : Side} :
    joinAll verdicts = favouring side ↔
      favouring side ∈ verdicts ∧
        ∀ verdict ∈ verdicts, verdict = unknown ∨ verdict = favouring side := by
  induction verdicts with
  | nil => simp [(favouring_ne_unknown side).symm]
  | cons verdict verdicts ih =>
      rw [joinAll_cons, join_eq_favouring_iff, joinAll_eq_unknown_iff, ih, List.mem_cons,
        List.forall_mem_cons]
      constructor
      · rintro (⟨hfirst, hall | ⟨-, hall⟩⟩ | ⟨hfirst, hmem, hall⟩)
        · exact ⟨.inl hfirst.symm, .inr hfirst, fun other hother => .inl (hall other hother)⟩
        · exact ⟨.inl hfirst.symm, .inr hfirst, hall⟩
        · exact ⟨.inr hmem, .inl hfirst, hall⟩
      · rintro ⟨hmem, hfirst, hall⟩
        by_cases hside : favouring side ∈ verdicts
        · rcases hfirst with hfirst | hfirst
          · exact .inr ⟨hfirst, hside, hall⟩
          · exact .inl ⟨hfirst, .inr ⟨hside, hall⟩⟩
        · refine .inl ⟨(hmem.resolve_right hside).symm, .inl fun other hother => ?_⟩
          refine (hall other hother).resolve_right ?_
          rintro rfl
          exact hside hother

/-- Neither the order of verdicts nor their repetition counts. -/
theorem joinAll_congr {first second : List Verdict}
    (h : ∀ verdict, verdict ∈ first ↔ verdict ∈ second) : joinAll first = joinAll second := by
  refine eq_of_iff ?_ fun side => ?_
  · simp only [joinAll_eq_unknown_iff, h]
  · simp only [joinAll_eq_favouring_iff, h]

end Verdict

end Delegation
