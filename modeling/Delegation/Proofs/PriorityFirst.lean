import Delegation.Proofs.Greatest

/-!
# Priority first

A resolver whose first criterion ranks candidates by priority may go on as it
likes, even in circles: only candidates of the greatest priority may be
unbeaten, and only they beat one another.  So the choice among all candidates
is the choice among those of the greatest priority.
-/

namespace Delegation

namespace Choice

/-! ## Preference that respects a key -/

section

variable {Key : Type} [LinearOrder Key] {key : Candidate → Key} {candidates : List Candidate}
  {verdict : Candidate → Candidate → Verdict}
  (h : ∀ left ∈ candidates, ∀ right ∈ candidates, key right < key left →
    verdict left right = .left ∧ verdict right left ≠ .left)

include h

theorem key_le_of_beats {first second : Nat} {left right : Candidate}
    (hleft : candidates[first]? = some left) (hright : candidates[second]? = some right)
    (hbeats : Beats verdict candidates first second) : key right ≤ key left := by
  refine le_of_not_gt fun hlt => ?_
  exact (h right (List.mem_of_getElem? hright) left (List.mem_of_getElem? hleft) hlt).2
    ((beats_iff hleft hright).mp hbeats).2

theorem beats_of_key_lt {first second : Nat} {left right : Candidate}
    (hleft : candidates[first]? = some left) (hright : candidates[second]? = some right)
    (hlt : key right < key left) : Beats verdict candidates first second := by
  refine (beats_iff hleft hright).mpr
    ⟨?_, (h left (List.mem_of_getElem? hleft) right (List.mem_of_getElem? hright) hlt).1⟩
  rintro rfl
  cases hleft.symm.trans hright
  exact lt_irrefl _ hlt

/-- Only candidates of the greatest key may be unbeaten, and only they beat one another. -/
theorem beaten_iff_of_respects {position : Nat} (hposition : position < candidates.length) :
    Beaten verdict candidates position ↔
      position ∈ greatestPositions key candidates →
        ∃ other ∈ greatestPositions key candidates, Beats verdict candidates other position := by
  have hcandidate : candidates[position]? = some candidates[position] :=
    List.getElem?_eq_getElem hposition
  constructor
  · rintro ⟨other, hother, hbeats⟩ hgreatest
    have hrival : candidates[other]? = some candidates[other] := List.getElem?_eq_getElem hother
    rw [mem_greatestPositions_iff hcandidate] at hgreatest
    refine ⟨other, (mem_greatestPositions_iff hrival).mpr fun third hthird => ?_, hbeats⟩
    exact (hgreatest third hthird).trans (key_le_of_beats h hrival hcandidate hbeats)
  · intro himplies
    by_cases hgreatest : position ∈ greatestPositions key candidates
    · obtain ⟨other, hother, hbeats⟩ := himplies hgreatest
      exact ⟨other, lt_of_kept (greatestPositions_sublist key candidates) other hother, hbeats⟩
    · -- Whoever has the greatest key beats a candidate that has not.
      obtain ⟨other, rival, hrival, habove⟩ :=
        exists_greatestPosition key (List.ne_nil_of_mem (List.mem_of_getElem? hcandidate))
      have hlt : key candidates[position] < key rival := by
        by_contra hnot
        refine hgreatest ((mem_greatestPositions_iff hcandidate).mpr fun third hthird => ?_)
        exact (habove third hthird).trans (le_of_not_gt hnot)
      exact ⟨other, (List.getElem?_eq_some_iff.mp hrival).1,
        beats_of_key_lt h hrival hcandidate hlt⟩

theorem unbeatenPositions_eq_itemsAt_greatestPositions :
    unbeatenPositions verdict candidates = itemsAt (greatestPositions key candidates)
      (unbeatenPositions verdict (itemsAt candidates (greatestPositions key candidates))) := by
  rw [itemsAt_unbeatenPositions (.of_sublist (greatestPositions_sublist key candidates))]
  change _ = ((List.range candidates.length).filter _).filter _
  rw [List.filter_filter]
  apply List.filter_congr
  intro position hposition
  have hlt := List.mem_range.mp hposition
  rw [Bool.eq_iff_iff, Bool.and_eq_true, decide_eq_true_iff, decide_eq_true_iff,
    decide_eq_true_iff, ← mem_greatestPositions, beaten_iff_of_respects h hlt, Classical.not_imp,
    and_comm]

end

end Choice

open Choice

/-! ## Choices by priority -/

def Candidate.priority (candidate : Candidate) : Int := candidate.target.priority

namespace Resolver

section

variable {Leaf : Type} {interpret : Leaf → Comparison} {resolver : Resolver Leaf} {first : Leaf}
  {others : List Leaf} (hleaves : resolver.leaves = first :: others)
  (hfirst : interpret first = Criterion.priority.comparison) {source : Method}

include hleaves hfirst

theorem verdict_of_priority {left right : Candidate} {side : Side}
    (hanswers : ∀ leaf ∈ resolver.leaves, (interpret leaf).Answers source left right)
    (hside : (Comparison.preferGreater left.priority right.priority).side? = some side) :
    (resolver.comparison interpret).verdict source left right = .favouring side := by
  have hleaf : ((interpret first).verdict source left right).side? = some side := by
    rw [hfirst, Criterion.side?_verdict_of_rank? rfl]
    exact hside
  rw [← Verdict.side?_eq_some_iff, resolver.side?_verdict hanswers, hleaves, List.findSome?_cons,
    hleaf]

variable (hanswers : ∀ leaf ∈ resolver.leaves, ∀ left right : Candidate,
    left.InRangeFor source → right.InRangeFor source → (interpret leaf).Answers source left right)
  {candidates : List Candidate} (hinRange : ∀ candidate ∈ candidates, candidate.InRangeFor source)

include hanswers hinRange

theorem verdict_respects_priority : ∀ left ∈ candidates, ∀ right ∈ candidates,
    right.priority < left.priority →
      (resolver.comparison interpret).verdict source left right = .left ∧
        (resolver.comparison interpret).verdict source right left ≠ .left := by
  intro left hleft right hright hlt
  have hforth := verdict_of_priority hleaves hfirst
    (fun leaf hleaf => hanswers leaf hleaf left right (hinRange left hleft) (hinRange right hright))
    (Comparison.side?_preferGreater_eq_left_iff.mpr hlt)
  have hback := verdict_of_priority hleaves hfirst
    (fun leaf hleaf => hanswers leaf hleaf right left (hinRange right hright) (hinRange left hleft))
    (Comparison.side?_preferGreater_eq_right_iff.mpr hlt)
  refine ⟨hforth, ?_⟩
  rw [hback]
  decide

/--
A resolver that goes by priority first chooses among all candidates as it does among those of the
greatest priority, whatever it asks next.  Only when each of those is beaten does it matter who
else there was, for then all are reported.
-/
theorem choose_greatest_priority (hne : candidates ≠ []) :
    (∀ choice : Choice,
      (choose (resolver.comparison interpret) source candidates).outcome = .ok (.ok choice) ↔
        ∃ inner, (greatestPositions Candidate.priority candidates)[inner]? = some choice.position ∧
          (choose (resolver.comparison interpret) source
              (greatest Candidate.priority candidates)).outcome =
            .ok (.ok ⟨inner, choice.candidate⟩)) ∧
    ((∀ choice : Choice,
        (choose (resolver.comparison interpret) source candidates).outcome ≠ .ok (.ok choice)) →
      ((∃ position < (greatest Candidate.priority candidates).length,
          ¬ Beaten ((resolver.comparison interpret).verdict source)
            (greatest Candidate.priority candidates) position) →
        ∃ targets,
          (choose (resolver.comparison interpret) source candidates).outcome =
            .ok (.error (.ambiguous source targets)) ∧
          (choose (resolver.comparison interpret) source
              (greatest Candidate.priority candidates)).outcome =
            .ok (.error (.ambiguous source targets))) ∧
      ((∀ position < (greatest Candidate.priority candidates).length,
          Beaten ((resolver.comparison interpret).verdict source)
            (greatest Candidate.priority candidates) position) →
        (choose (resolver.comparison interpret) source candidates).outcome =
          .ok (.error (.ambiguous source (candidates.map Candidate.target))) ∧
        (choose (resolver.comparison interpret) source
            (greatest Candidate.priority candidates)).outcome =
          .ok (.error (.ambiguous source
            ((greatest Candidate.priority candidates).map Candidate.target))))) := by
  have hchoose : ∀ kept ⊆ candidates,
      (choose (resolver.comparison interpret) source kept).outcome =
        .ok (chooseBy (resolver.comparison interpret).verdict source kept) := by
    intro kept hkept
    refine outcome_choose_of_answers fun left hleft right hright => ?_
    exact resolver.answers_of_leaves fun leaf hleaf => hanswers leaf hleaf left right
      (hinRange left (hkept hleft)) (hinRange right (hkept hright))
  have hlt := lt_of_kept (greatestPositions_sublist Candidate.priority candidates)
  have hsame := unbeatenPositions_eq_itemsAt_greatestPositions
    (verdict_respects_priority hleaves hfirst hanswers hinRange)
  rw [← itemsAt_greatestPositions, hchoose candidates (List.Subset.refl _),
    hchoose _ itemsAt_subset]
  simp only [Except.ok.injEq, ne_eq]
  refine ⟨fun choice => chooseBy_eq_ok_iff_itemsAt hlt hsame, fun hnot => ⟨?_, fun hnone => ?_⟩⟩
  · rintro ⟨position, hposition⟩
    exact chooseBy_itemsAt_of_not_chosen hlt hsame
      (List.ne_nil_of_mem (mem_unbeatenPositions.mpr hposition)) hnot
  · have hinner : unbeatenPositions ((resolver.comparison interpret).verdict source)
        (itemsAt candidates (greatestPositions Candidate.priority candidates)) = [] := by
      simpa [List.eq_nil_iff_forall_not_mem, mem_unbeatenPositions] using hnone
    rw [hinner] at hsame
    have hgreatest := greatest_ne_nil Candidate.priority hne
    rw [← itemsAt_greatestPositions] at hgreatest
    exact ⟨chooseBy_of_all_beaten hne hsame, chooseBy_of_all_beaten hgreatest hinner⟩

end

def prioritized (priority : Int) (kind : Primitive) : Candidate :=
  (Binding.identity
    { owner := .root, name := "handle", parameters := [.primitive kind],
      priority := priority }).candidate

def prioritizedHandlers : List Candidate :=
  [prioritized (-7) .byte, prioritized 5 .long, prioritized 5 .int]

/-- The standard chain prefers the more specific argument among those of the greatest priority. -/
theorem choose_greatest_priority_handlers :
    greatestPositions Candidate.priority prioritizedHandlers = [1, 2] ∧
      (choose (Chain.standard.resolver.comparison Criterion.comparison)
        (prioritized 1 .byte).target prioritizedHandlers).outcome =
          .ok (.ok ⟨2, prioritized 5 .int⟩) := by
  have hleaves : Chain.standard.resolver.leaves =
      [.priority, .owner, .argumentTypes, .name, .arity] := rfl
  have hpositions : greatestPositions Candidate.priority prioritizedHandlers = [1, 2] := rfl
  have hinRange : ∀ candidate ∈ prioritizedHandlers,
      candidate.InRangeFor (prioritized 1 .byte).target := by
    intro candidate hcandidate
    simp only [prioritizedHandlers, List.mem_cons, List.not_mem_nil, or_false] at hcandidate
    rcases hcandidate with rfl | rfl | rfl <;> exact (Binding.inRange_identity _).inRangeFor _
  have hspec := choose_greatest_priority hleaves rfl
    (fun leaf _ _ _ hleft hright => leaf.answers_of_inRangeFor hleft hright) hinRange (by decide)
  exact ⟨hpositions, (hspec.1 _).mpr ⟨1, rfl, rfl⟩⟩

/-- Where those of the greatest priority run in a circle, all candidates are reported. -/
example :
    (choose ((Chain.ofLeaves [Criterion.priority, .favour .left]).resolver.comparison
        Criterion.comparison) (prioritized 1 .byte).target prioritizedHandlers).outcome =
      .ok (.error (.ambiguous (prioritized 1 .byte).target
        (prioritizedHandlers.map Candidate.target))) := rfl

end Resolver

end Delegation
