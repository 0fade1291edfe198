import Delegation.Verdict
import Mathlib.Data.List.Infix

/-!
# Joined verdicts

A verdict speaks for a set of sides: an undecided one for neither or for both,
and a decided one for the side that it prefers.  Joining verdicts unites these
sets.  So a list joins to what its members say, in whatever order and however
often they say it, and what both sides have been spoken for stays ambiguous.
-/

namespace Delegation.Verdict

/-! ## The sides that a verdict speaks for -/

def SpeaksFor (verdict : Verdict) (side : Side) : Prop :=
  verdict = ambiguous ∨ verdict = favouring side

instance (verdict : Verdict) (side : Side) : Decidable (verdict.SpeaksFor side) :=
  inferInstanceAs (Decidable (_ ∨ _))

theorem speaksFor_join {first second : Verdict} {side : Side} :
    (first.join second).SpeaksFor side ↔ first.SpeaksFor side ∨ second.SpeaksFor side := by
  cases side <;> cases first <;> cases second <;> decide

theorem not_speaksFor_unknown (side : Side) : ¬ unknown.SpeaksFor side := by
  cases side <;> decide

theorem eq_ambiguous_iff_speaksFor {verdict : Verdict} :
    verdict = ambiguous ↔ ∀ side, verdict.SpeaksFor side := by
  constructor
  · rintro rfl side
    exact .inl rfl
  · intro hall
    have hleft := hall .left
    have hright := hall .right
    revert hleft hright
    cases verdict <;> decide

/-- The swapped verdict speaks for a side if the verdict itself does for the other one. -/
theorem eq_favouring_iff_speaksFor {verdict : Verdict} {side : Side} :
    verdict = favouring side ↔ verdict.SpeaksFor side ∧ ¬ verdict.swap.SpeaksFor side := by
  cases side <;> cases verdict <;> decide

/-! ## Joining -/

theorem joinAll_append (first second : List Verdict) :
    joinAll (first ++ second) = (joinAll first).join (joinAll second) := by
  induction first with
  | nil => rw [List.nil_append, joinAll_nil, unknown_join]
  | cons verdict verdicts ih => rw [List.cons_append, joinAll_cons, joinAll_cons, ih, join_assoc]

theorem speaksFor_joinAll {verdicts : List Verdict} {side : Side} :
    (joinAll verdicts).SpeaksFor side ↔ ambiguous ∈ verdicts ∨ favouring side ∈ verdicts := by
  induction verdicts with
  | nil => simp [not_speaksFor_unknown]
  | cons verdict verdicts ih =>
      rw [joinAll_cons, speaksFor_join, ih, SpeaksFor, List.mem_cons, List.mem_cons, or_or_or_comm,
        eq_comm, @eq_comm _ verdict (favouring side)]

theorem joinAll_eq_ambiguous_iff {verdicts : List Verdict} :
    joinAll verdicts = ambiguous ↔
      ambiguous ∈ verdicts ∨ left ∈ verdicts ∧ right ∈ verdicts := by
  rw [eq_ambiguous_iff_speaksFor]
  simp only [speaksFor_joinAll]
  constructor
  · intro hall
    have hleft : ambiguous ∈ verdicts ∨ left ∈ verdicts := hall .left
    have hright : ambiguous ∈ verdicts ∨ right ∈ verdicts := hall .right
    exact or_and_left.mpr ⟨hleft, hright⟩
  · rintro (hambiguous | ⟨hleft, hright⟩) side
    · exact .inl hambiguous
    · cases side with
      | left => exact .inr hleft
      | right => exact .inr hright

theorem joinAll_eq_favouring_iff_unopposed {verdicts : List Verdict} {side : Side} :
    joinAll verdicts = favouring side ↔
      favouring side ∈ verdicts ∧ ambiguous ∉ verdicts ∧ (favouring side).swap ∉ verdicts := by
  -- To speak for a side once swapped is to speak against it.
  have hswapped : ∀ verdict : Verdict, verdict ∈ verdicts.map swap ↔ verdict.swap ∈ verdicts := by
    intro verdict
    rw [List.mem_map]
    exact ⟨fun ⟨other, hmem, hother⟩ => by rwa [← hother, swap_swap],
      fun hmem => ⟨verdict.swap, hmem, swap_swap verdict⟩⟩
  rw [eq_favouring_iff_speaksFor, swap_joinAll, speaksFor_joinAll, speaksFor_joinAll, hswapped,
    hswapped]
  have hambiguous : ambiguous.swap = ambiguous := rfl
  rw [hambiguous]
  tauto

theorem joinAll_eq_ambiguous_of_subset {first second : List Verdict} (h : first ⊆ second)
    (hambiguous : joinAll first = ambiguous) : joinAll second = ambiguous := by
  rw [joinAll_eq_ambiguous_iff] at hambiguous ⊢
  exact hambiguous.imp (@h _) (And.imp (@h _) (@h _))

/--
Lists join part by part and swap member by member, and only the verdicts that occur count: the
join is ambiguous if one of them is or both sides occur, prefers a side that occurs unopposed,
and is unknown without any side.  What a list begins with stays ambiguous.
-/
theorem joinAll_exact (first second : List Verdict) :
    joinAll (first ++ second) = (joinAll first).join (joinAll second) ∧
    joinAll (first.map swap) = (joinAll first).swap ∧
    ((∀ verdict, verdict ∈ first ↔ verdict ∈ second) → joinAll first = joinAll second) ∧
    (joinAll first = .ambiguous ↔ .ambiguous ∈ first ∨ .left ∈ first ∧ .right ∈ first) ∧
    (∀ side, joinAll first = .favouring side ↔
      .favouring side ∈ first ∧ .ambiguous ∉ first ∧ (favouring side).swap ∉ first) ∧
    (joinAll first = .unknown ↔ ∀ verdict ∈ first, verdict = .unknown) ∧
    (first <+: second → joinAll first = .ambiguous → joinAll second = .ambiguous) :=
  ⟨joinAll_append first second, (swap_joinAll first).symm, joinAll_congr,
    joinAll_eq_ambiguous_iff, fun _ => joinAll_eq_favouring_iff_unopposed, joinAll_eq_unknown_iff,
    fun hprefix => joinAll_eq_ambiguous_of_subset hprefix.subset⟩

/-- One verdict for each side is not made up for by any further ones. -/
theorem joinAll_exact_conflict :
    joinAll [.right, .unknown, .left] = .ambiguous ∧
      joinAll [.right, .unknown, .left, .left, .left] = .ambiguous ∧
      joinAll [.left, .right, .left, .unknown] = joinAll [.right, .unknown, .left] := by
  have hspec := joinAll_exact [.right, .unknown, .left]
  have hconflict : joinAll [.right, .unknown, .left] = .ambiguous :=
    (hspec []).2.2.2.1.mpr (by decide)
  have hprefix : [right, unknown, left] <+: [right, unknown, left, left, left] := ⟨_, rfl⟩
  have hsame : ∀ verdict, verdict ∈ [left, right, left, unknown] ↔
      verdict ∈ [right, unknown, left] := fun verdict => by cases verdict <;> decide
  exact ⟨hconflict, (hspec _).2.2.2.2.2.2 hprefix hconflict,
    (joinAll_exact [.left, .right, .left, .unknown] _).2.2.1 hsame⟩

end Delegation.Verdict
