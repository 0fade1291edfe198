import Delegation.Proofs.Preference

/-!
# Sublists of candidates

A sublist keeps the candidates at some positions, in order.  Those of it beat
one another as they do in the whole list, for a candidate still counts by the
position that it had.  Where beating is transitive, the chosen candidate beats
all others, so it is chosen from every sublist that keeps it.  And where the
same candidates are unbeaten in the sublist as in the whole list, the two
choices differ at most in what they report when there are none.
-/

namespace Delegation

namespace Choice

/-! ## Beating among some of the candidates -/

section

variable {candidates : List Candidate} {positions : List Nat}
  (h : PositionsOf candidates positions) {verdict : Candidate → Candidate → Verdict}

include h

theorem beats_itemsAt_iff {first second : Nat} :
    Beats verdict (itemsAt candidates positions) first second ↔
      ∃ lower ∈ positions[first]?, ∃ upper ∈ positions[second]?,
        Beats verdict candidates lower upper := by
  have hat := getElem?_itemsAt h.lt
  constructor
  · rintro ⟨hne, left, hleft, right, hright, hverdict⟩
    rw [Option.mem_def, hat] at hleft hright
    obtain ⟨lower, hlower, hleft⟩ := Option.bind_eq_some_iff.mp hleft
    obtain ⟨upper, hupper, hright⟩ := Option.bind_eq_some_iff.mp hright
    refine ⟨lower, hlower, upper, hupper, ?_, left, hleft, right, hright, hverdict⟩
    rintro rfl
    exact hne (h.eq_of_getElem? hlower hupper)
  · rintro ⟨lower, hlower, upper, hupper, hne, left, hleft, right, hright, hverdict⟩
    refine ⟨?_, left, ?_, right, ?_, hverdict⟩
    · rintro rfl
      exact hne (Option.some.inj (hlower.symm.trans hupper))
    · rw [h.getElem?_itemsAt hlower]
      exact hleft
    · rw [h.getElem?_itemsAt hupper]
      exact hright

theorem beaten_itemsAt_iff {inner position : Nat} (hposition : positions[inner]? = some position) :
    Beaten verdict (itemsAt candidates positions) inner ↔
      ∃ other ∈ positions, Beats verdict candidates other position := by
  constructor
  · rintro ⟨outer, -, hbeats⟩
    obtain ⟨other, hother, upper, hupper, hbeats⟩ := (beats_itemsAt_iff h).mp hbeats
    cases hposition.symm.trans hupper
    exact ⟨other, List.mem_of_getElem? hother, hbeats⟩
  · rintro ⟨other, hmem, hbeats⟩
    obtain ⟨outer, hother⟩ := List.mem_iff_getElem?.mp hmem
    refine ⟨outer, ?_, (beats_itemsAt_iff h).mpr ⟨other, hother, position, hposition, hbeats⟩⟩
    rw [length_itemsAt h.lt]
    exact (List.getElem?_eq_some_iff.mp hother).1

theorem itemsAt_unbeatenPositions :
    itemsAt positions (unbeatenPositions verdict (itemsAt candidates positions)) =
      positions.filter fun position =>
        ¬ ∃ other ∈ positions, Beats verdict candidates other position := by
  rw [unbeatenPositions, length_itemsAt h.lt]
  exact itemsAt_filter_range positions fun inner position hposition =>
    not_congr (beaten_itemsAt_iff h hposition)

end

/-! ## Beating within a sublist -/

section

variable {candidates : List Candidate} {positions : List Nat}
  (hkept : positions.Sublist (List.range candidates.length))

include hkept

theorem lt_of_kept : ∀ position ∈ positions, position < candidates.length :=
  (PositionsOf.of_sublist hkept).lt

theorem getElem?_itemsAt_of_kept {inner position : Nat} (h : positions[inner]? = some position) :
    (itemsAt candidates positions)[inner]? = candidates[position]? :=
  (PositionsOf.of_sublist hkept).getElem?_itemsAt h

variable {verdict : Candidate → Candidate → Verdict}

/-- Who beats everybody is unbeaten, alone, in every sublist that keeps it. -/
theorem unbeatenPositions_itemsAt_of_beats (htrans : IsTrans Nat (Beats verdict candidates))
    {winner : Nat} (hbeats : ∀ other < candidates.length, other ≠ winner →
      Beats verdict candidates winner other) (hwinner : winner ∈ positions) :
    unbeatenPositions verdict (itemsAt candidates positions) = [positions.idxOf winner] := by
  have hpositions := PositionsOf.of_sublist hkept
  have hat : positions[positions.idxOf winner]? = some winner := List.getElem?_idxOf hwinner
  rw [unbeatenPositions_eq_singleton_iff]
  intro inner
  constructor
  · rintro ⟨hinner, hunbeaten⟩
    rw [length_itemsAt hpositions.lt] at hinner
    have hposition : positions[inner]? = some positions[inner] := List.getElem?_eq_getElem hinner
    by_contra hne
    refine hunbeaten ((beaten_itemsAt_iff hpositions hposition).mpr ⟨winner, hwinner, ?_⟩)
    refine hbeats _ (hpositions.lt _ (List.getElem_mem hinner)) fun hsame => ?_
    exact hne (hpositions.eq_of_getElem? hposition (hsame ▸ hat))
  · rintro rfl
    rw [length_itemsAt hpositions.lt, beaten_itemsAt_iff hpositions hat]
    refine ⟨List.idxOf_lt_length_iff.mpr hwinner, ?_⟩
    rintro ⟨other, hother, hup⟩
    have hdown := hbeats other (hpositions.lt other hother) hup.1
    exact (htrans.trans winner other winner hdown hup).1 rfl

end

/-! ## Choices that a sublist decides -/

section

variable {candidates : List Candidate} {positions : List Nat}
  (hlt : ∀ position ∈ positions, position < candidates.length)

include hlt

theorem lt_of_mem_unbeatenPositions_itemsAt (verdict : Candidate → Candidate → Verdict) :
    ∀ inner ∈ unbeatenPositions verdict (itemsAt candidates positions),
      inner < positions.length := by
  intro inner hmem
  rw [← length_itemsAt hlt]
  exact (mem_unbeatenPositions.mp hmem).1

variable {verdict : Method → Candidate → Candidate → Verdict} {source : Method}

/-- One position is unbeaten in the list if the one that comes from it is unbeaten in the other. -/
theorem chooseBy_eq_ok_iff_itemsAt_of_perm
    (hperm : (itemsAt positions (unbeatenPositions (verdict source)
      (itemsAt candidates positions))).Perm (unbeatenPositions (verdict source) candidates))
    {choice : Choice} :
    chooseBy verdict source candidates = .ok choice ↔
      ∃ inner, positions[inner]? = some choice.position ∧
        chooseBy verdict source (itemsAt candidates positions) =
          .ok ⟨inner, choice.candidate⟩ := by
  have hinner := lt_of_mem_unbeatenPositions_itemsAt hlt (verdict source)
  have hsole : unbeatenPositions (verdict source) candidates = [choice.position] ↔
      itemsAt positions (unbeatenPositions (verdict source) (itemsAt candidates positions)) =
        [choice.position] := by
    rw [← List.perm_singleton, ← List.perm_singleton]
    exact hperm.symm.congr_left _
  simp only [chooseBy_eq_ok_iff, hsole, itemsAt_eq_singleton_iff hinner, getElem?_itemsAt hlt]
  constructor
  · rintro ⟨hcandidate, inner, hsole, hposition⟩
    exact ⟨inner, hposition, by rw [hposition, Option.bind_some, hcandidate], hsole⟩
  · rintro ⟨inner, hposition, hcandidate, hsole⟩
    rw [hposition, Option.bind_some] at hcandidate
    exact ⟨hcandidate, inner, hsole, hposition⟩

variable (hsame : unbeatenPositions (verdict source) candidates =
    itemsAt positions (unbeatenPositions (verdict source) (itemsAt candidates positions)))

include hsame

theorem chooseBy_eq_ok_iff_itemsAt {choice : Choice} :
    chooseBy verdict source candidates = .ok choice ↔
      ∃ inner, positions[inner]? = some choice.position ∧
        chooseBy verdict source (itemsAt candidates positions) =
          .ok ⟨inner, choice.candidate⟩ :=
  chooseBy_eq_ok_iff_itemsAt_of_perm hlt (.of_eq hsame.symm)

/-- Where nobody is chosen, the unbeaten candidates that are reported are the same. -/
theorem chooseBy_itemsAt_of_not_chosen
    (hsome : unbeatenPositions (verdict source) (itemsAt candidates positions) ≠ [])
    (hnot : ∀ choice, chooseBy verdict source candidates ≠ .ok choice) :
    ∃ targets, chooseBy verdict source candidates = .error (.ambiguous source targets) ∧
      chooseBy verdict source (itemsAt candidates positions) =
        .error (.ambiguous source targets) := by
  have hinner := lt_of_mem_unbeatenPositions_itemsAt hlt (verdict source)
  have hsome' : unbeatenPositions (verdict source) candidates ≠ [] := by
    rw [hsame, ← List.length_pos_iff, length_itemsAt hinner, List.length_pos_iff]
    exact hsome
  have hnot' : ∀ choice,
      chooseBy verdict source (itemsAt candidates positions) ≠ .ok choice := by
    intro choice hchoice
    -- Chosen from the sublist, it would be chosen at the position that it has in the whole list.
    have hsole := (chooseBy_eq_ok_iff.mp hchoice).2
    have hposition := List.getElem?_eq_getElem (hinner choice.position (by simp [hsole]))
    exact hnot ⟨_, choice.candidate⟩
      ((chooseBy_eq_ok_iff_itemsAt hlt hsame).mpr ⟨choice.position, hposition, hchoice⟩)
  refine ⟨_, chooseBy_of_not_chosen hsome' hnot, ?_⟩
  rw [chooseBy_of_not_chosen hsome hnot', targetsAt_eq_map_itemsAt, targetsAt_eq_map_itemsAt,
    itemsAt_itemsAt hlt, ← hsame]

end

end Choice

open Choice

/-! ## Transitive beating -/

/--
Where beating is transitive, somebody is unbeaten, the chosen candidate is the one that beats
everybody else, and it stays chosen when others are taken away.
-/
theorem outcome_choose_of_transitive (comparison : Comparison)
    (verdict : Method → Candidate → Candidate → Verdict) (source : Method)
    (candidates : List Candidate)
    (h : ∀ left ∈ candidates, ∀ right ∈ candidates,
      (comparison source left right).outcome = .ok (verdict source left right))
    (htrans : IsTrans Nat (Beats (verdict source) candidates)) (hne : candidates ≠ []) :
    (∃ position < candidates.length, ¬ Beaten (verdict source) candidates position) ∧
    (∀ choice : Choice, (choose comparison source candidates).outcome = .ok (.ok choice) ↔
      candidates[choice.position]? = some choice.candidate ∧
        ∀ other < candidates.length, other ≠ choice.position →
          Beats (verdict source) candidates choice.position other) ∧
    (∀ choice : Choice, (choose comparison source candidates).outcome = .ok (.ok choice) →
      ∀ positions : List Nat, positions.Sublist (List.range candidates.length) →
        choice.position ∈ positions →
          (choose comparison source (itemsAt candidates positions)).outcome =
            .ok (.ok ⟨positions.idxOf choice.position, choice.candidate⟩)) := by
  simp only [outcome_choose h, Except.ok.injEq, chooseBy_eq_ok_iff_beats htrans, implies_true,
    true_and]
  refine ⟨exists_unbeaten htrans hne, ?_⟩
  rintro choice ⟨hcandidate, hbeats⟩ positions hkept hmem
  rw [outcome_choose fun left hleft right hright =>
      h left (itemsAt_subset hleft) right (itemsAt_subset hright),
    Except.ok.injEq, chooseBy_eq_ok_iff]
  refine ⟨?_, unbeatenPositions_itemsAt_of_beats hkept htrans hbeats hmem⟩
  exact (getElem?_itemsAt_of_kept hkept (List.getElem?_idxOf hmem)).trans hcandidate

/-- The candidates of arity one and none may be taken away from the one of arity two. -/
theorem outcome_choose_of_transitive_of_arity :
    (choose (Criterion.comparison .arity) (ofArity 3).target
        [ofArity 1, ofArity 2, ofArity 0]).outcome = .ok (.ok ⟨1, ofArity 2⟩) ∧
      (choose (Criterion.comparison .arity) (ofArity 3).target
        (itemsAt [ofArity 1, ofArity 2, ofArity 0] [1, 2])).outcome =
          .ok (.ok ⟨0, ofArity 2⟩) := by
  have htrans : IsTrans Nat (Beats (fun left right =>
      Comparison.preferGreater left.target.arity right.target.arity)
        [ofArity 1, ofArity 2, ofArity 0]) :=
    isTrans_beats_of_key (fun _ _ => Comparison.preferGreater_eq_left_iff) _
  have hchosen : (choose (Criterion.comparison .arity) (ofArity 3).target
      [ofArity 1, ofArity 2, ofArity 0]).outcome = .ok (.ok ⟨1, ofArity 2⟩) := rfl
  have hspec := outcome_choose_of_transitive (Criterion.comparison .arity)
    (fun _ left right => Comparison.preferGreater left.target.arity right.target.arity)
    (ofArity 3).target [ofArity 1, ofArity 2, ofArity 0] (fun _ _ _ _ => rfl) htrans (by decide)
  exact ⟨hchosen, hspec.2.2 _ hchosen [1, 2] (by decide) (by decide)⟩

end Delegation
