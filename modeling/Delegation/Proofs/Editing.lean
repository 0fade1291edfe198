import Delegation.Proofs.Sublists

/-!
# Editing the list of candidates

A candidate is beaten by the same others wherever they stand, so in a new order
the same candidates are unbeaten, and the choice moves with its candidate.  Each
candidate that is added may beat some of the others but rescues none of them.
So whoever is unbeaten among more is unbeaten among fewer.
-/

namespace Delegation

namespace Choice

/-! ## A new order -/

section

variable {candidates : List Candidate} {order : List Nat}
  (h : order.Perm (List.range candidates.length)) {verdict : Candidate → Candidate → Verdict}

include h

theorem beaten_reordered_iff {inner position : Nat} (hposition : order[inner]? = some position) :
    Beaten verdict (itemsAt candidates order) inner ↔ Beaten verdict candidates position := by
  rw [beaten_itemsAt_iff (.of_perm h) hposition]
  simp only [h.mem_iff, List.mem_range]
  rfl

theorem itemsAt_unbeatenPositions_reordered :
    itemsAt order (unbeatenPositions verdict (itemsAt candidates order)) =
      order.filter fun position => ¬ Beaten verdict candidates position := by
  rw [unbeatenPositions, length_itemsAt (PositionsOf.of_perm h).lt]
  exact itemsAt_filter_range order fun inner position hposition =>
    not_congr (beaten_reordered_iff h hposition)

theorem perm_unbeatenPositions_reordered :
    (itemsAt order (unbeatenPositions verdict (itemsAt candidates order))).Perm
      (unbeatenPositions verdict candidates) := by
  rw [itemsAt_unbeatenPositions_reordered h]
  exact h.filter _

theorem all_beaten_reordered_iff :
    (∀ inner < (itemsAt candidates order).length,
        Beaten verdict (itemsAt candidates order) inner) ↔
      ∀ position < candidates.length, Beaten verdict candidates position := by
  rw [length_itemsAt (PositionsOf.of_perm h).lt]
  constructor
  · intro hall position hposition
    obtain ⟨inner, hinner⟩ :=
      List.mem_iff_getElem?.mp (h.mem_iff.mpr (List.mem_range.mpr hposition))
    have hlt := (List.getElem?_eq_some_iff.mp hinner).1
    exact (beaten_reordered_iff h hinner).mp (hall inner hlt)
  · intro hall inner hinner
    have hposition : order[inner]? = some order[inner] := List.getElem?_eq_getElem hinner
    exact (beaten_reordered_iff h hposition).mpr
      (hall _ ((PositionsOf.of_perm h).lt _ (List.getElem_mem hinner)))

theorem itemsAt_reportedPositions_reordered :
    itemsAt order (reportedPositions verdict (itemsAt candidates order)) =
      order.filter fun position => Reported verdict candidates position := by
  rw [reportedPositions, length_itemsAt (PositionsOf.of_perm h).lt]
  exact itemsAt_filter_range order fun inner position hposition =>
    imp_congr (beaten_reordered_iff h hposition) (all_beaten_reordered_iff h)

theorem targetsAt_reportedPositions_reordered :
    targetsAt (itemsAt candidates order) (reportedPositions verdict (itemsAt candidates order)) =
      targetsAt candidates (order.filter fun position => Reported verdict candidates position) := by
  rw [targetsAt_eq_map_itemsAt, targetsAt_eq_map_itemsAt, itemsAt_itemsAt (PositionsOf.of_perm h).lt,
    itemsAt_reportedPositions_reordered h]

end

section

variable {candidates : List Candidate} {order : List Nat}
  (h : order.Perm (List.range candidates.length))
  {verdict : Method → Candidate → Candidate → Verdict} {source : Method}

include h

theorem reordered_eq_nil_iff : itemsAt candidates order = [] ↔ candidates = [] := by
  rw [← List.length_eq_zero_iff, length_itemsAt (PositionsOf.of_perm h).lt, h.length_eq,
    List.length_range, List.length_eq_zero_iff]

theorem chooseBy_reordered_eq_ok_iff {inner position : Nat}
    (hposition : order[inner]? = some position) {candidate : Candidate} :
    chooseBy verdict source (itemsAt candidates order) = .ok ⟨inner, candidate⟩ ↔
      chooseBy verdict source candidates = .ok ⟨position, candidate⟩ := by
  rw [chooseBy_eq_ok_iff_itemsAt_of_perm (PositionsOf.of_perm h).lt
    (perm_unbeatenPositions_reordered h)]
  constructor
  · intro hchosen
    exact ⟨inner, hposition, hchosen⟩
  · rintro ⟨other, hother, hchosen⟩
    rwa [(PositionsOf.of_perm h).eq_of_getElem? hposition hother]

theorem chooseBy_reordered_of_ambiguous {targets : List Method}
    (hambiguous : chooseBy verdict source candidates = .error (.ambiguous source targets)) :
    chooseBy verdict source (itemsAt candidates order) = .error (.ambiguous source
      (targetsAt candidates
        (order.filter fun position => Reported (verdict source) candidates position))) := by
  obtain ⟨hne, hnot, -⟩ := chooseBy_eq_ambiguous_iff.mp hambiguous
  refine chooseBy_eq_ambiguous_iff.mpr ⟨mt (reordered_eq_nil_iff h).mp hne, ?_, ?_⟩
  · rintro ⟨inner, candidate⟩ hchosen
    -- Chosen in the new order, the candidate would be chosen in the old one as well.
    have hinner := (List.getElem?_eq_some_iff.mp (chooseBy_eq_ok_iff.mp hchosen).1).1
    rw [length_itemsAt (PositionsOf.of_perm h).lt] at hinner
    exact hnot _ ((chooseBy_reordered_eq_ok_iff h (List.getElem?_eq_getElem hinner)).mp hchosen)
  · exact (targetsAt_reportedPositions_reordered h).symm

end

/-! ## Fewer candidates -/

theorem not_beaten_of_kept {candidates : List Candidate} {kept : List Nat}
    (hkept : kept.Sublist (List.range candidates.length))
    {verdict : Candidate → Candidate → Verdict} {inner position : Nat}
    (hposition : kept[inner]? = some position)
    (hunbeaten : ¬ Beaten verdict candidates position) :
    ¬ Beaten verdict (itemsAt candidates kept) inner := by
  rw [beaten_itemsAt_iff (.of_sublist hkept) hposition]
  rintro ⟨other, hother, hbeats⟩
  exact hunbeaten ⟨other, lt_of_kept hkept other hother, hbeats⟩

/-- Who is unbeaten is chosen, or reported next to others. -/
theorem chosen_or_reported_of_unbeaten {candidates : List Candidate}
    {verdict : Method → Candidate → Candidate → Verdict} {source : Method} {position : Nat}
    {candidate : Candidate} (hcandidate : candidates[position]? = some candidate)
    (hunbeaten : ¬ Beaten (verdict source) candidates position) :
    chooseBy verdict source candidates = .ok ⟨position, candidate⟩ ∨
      ∃ targets, candidate.target ∈ targets ∧
        chooseBy verdict source candidates = .error (.ambiguous source targets) := by
  have hlt := (List.getElem?_eq_some_iff.mp hcandidate).1
  have hmem : position ∈ unbeatenPositions (verdict source) candidates :=
    mem_unbeatenPositions.mpr ⟨hlt, hunbeaten⟩
  by_cases hchosen : ∃ choice, chooseBy verdict source candidates = .ok choice
  · obtain ⟨choice, hchoice⟩ := hchosen
    obtain ⟨-, hsole⟩ := chooseBy_eq_ok_iff.mp hchoice
    rw [hsole, List.mem_singleton] at hmem
    subst hmem
    exact .inl (chooseBy_eq_ok_iff.mpr ⟨hcandidate, hsole⟩)
  · have hnot : ∀ choice, chooseBy verdict source candidates ≠ .ok choice := not_exists.mp hchosen
    refine .inr ⟨_, ?_, chooseBy_of_not_chosen (List.ne_nil_of_mem hmem) hnot⟩
    exact List.mem_filterMap.mpr ⟨position, hmem, by rw [hcandidate, Option.map_some]⟩

end Choice

open Choice

/--
In a new order the same candidate is chosen, where it stands now, or the same ones are reported
in that order.  Among fewer candidates whoever was unbeaten still is, so the one that was chosen
is chosen or reported.
-/
theorem outcome_choose_edited (comparison : Comparison)
    (verdict : Method → Candidate → Candidate → Verdict) (source : Method)
    (candidates : List Candidate)
    (h : ∀ left ∈ candidates, ∀ right ∈ candidates,
      (comparison source left right).outcome = .ok (verdict source left right)) :
    (∀ order : List Nat, order.Perm (List.range candidates.length) →
      ((choose comparison source (itemsAt candidates order)).outcome =
          .ok (.error (.noCandidates source)) ↔
        (choose comparison source candidates).outcome = .ok (.error (.noCandidates source))) ∧
      (∀ inner position candidate, order[inner]? = some position →
        ((choose comparison source (itemsAt candidates order)).outcome =
            .ok (.ok ⟨inner, candidate⟩) ↔
          (choose comparison source candidates).outcome = .ok (.ok ⟨position, candidate⟩))) ∧
      (∀ targets, (choose comparison source candidates).outcome =
          .ok (.error (.ambiguous source targets)) →
        targets = targetsAt candidates ((List.range candidates.length).filter fun position =>
          Reported (verdict source) candidates position) ∧
        ∃ moved, moved = targetsAt candidates (order.filter fun position =>
            Reported (verdict source) candidates position) ∧
          moved.Perm targets ∧
          (choose comparison source (itemsAt candidates order)).outcome =
            .ok (.error (.ambiguous source moved)))) ∧
    (∀ kept : List Nat, kept.Sublist (List.range candidates.length) →
      ∀ inner position, kept[inner]? = some position →
        (¬ Beaten (verdict source) candidates position →
          ¬ Beaten (verdict source) (itemsAt candidates kept) inner) ∧
        (∀ candidate, (choose comparison source candidates).outcome =
            .ok (.ok ⟨position, candidate⟩) →
          (choose comparison source (itemsAt candidates kept)).outcome =
              .ok (.ok ⟨inner, candidate⟩) ∨
            ∃ targets, candidate.target ∈ targets ∧
              (choose comparison source (itemsAt candidates kept)).outcome =
                .ok (.error (.ambiguous source targets)))) := by
  have hchoose : ∀ positions : List Nat,
      (choose comparison source (itemsAt candidates positions)).outcome =
        .ok (chooseBy verdict source (itemsAt candidates positions)) :=
    fun positions => outcome_choose fun left hleft right hright =>
      h left (itemsAt_subset hleft) right (itemsAt_subset hright)
  simp only [hchoose, outcome_choose h, Except.ok.injEq]
  constructor
  · intro order horder
    refine ⟨?_, fun inner position candidate hposition => ?_, fun targets hambiguous => ?_⟩
    · rw [chooseBy_eq_noCandidates_iff, chooseBy_eq_noCandidates_iff,
        reordered_eq_nil_iff horder]
    · exact chooseBy_reordered_eq_ok_iff horder hposition
    · obtain ⟨-, -, rfl⟩ := chooseBy_eq_ambiguous_iff.mp hambiguous
      refine ⟨rfl, _, rfl, ?_, chooseBy_reordered_of_ambiguous horder hambiguous⟩
      exact (horder.filter _).filterMap _
  · intro kept hkept inner position hposition
    refine ⟨not_beaten_of_kept hkept hposition, fun candidate hchosen => ?_⟩
    obtain ⟨hcandidate, hsole⟩ := chooseBy_eq_ok_iff.mp hchosen
    have hinner : (itemsAt candidates kept)[inner]? = some candidate :=
      (getElem?_itemsAt_of_kept hkept hposition).trans hcandidate
    exact chosen_or_reported_of_unbeaten hinner
      (not_beaten_of_kept hkept hposition (not_beaten_of_sole hsole))

/-- Three targets of one priority are reported in the order of their candidates. -/
theorem outcome_choose_edited_of_arity :
    (choose (Criterion.comparison .priority) (ofArity 3).target
        (itemsAt [ofArity 1, ofArity 2, ofArity 0] [2, 0, 1])).outcome =
      .ok (.error (.ambiguous (ofArity 3).target
        [(ofArity 0).target, (ofArity 1).target, (ofArity 2).target])) ∧
    ((choose (Criterion.comparison .arity) (ofArity 3).target
        (itemsAt [ofArity 1, ofArity 2, ofArity 0] [1, 2])).outcome = .ok (.ok ⟨0, ofArity 2⟩) ∨
      ∃ targets, (ofArity 2).target ∈ targets ∧
        (choose (Criterion.comparison .arity) (ofArity 3).target
            (itemsAt [ofArity 1, ofArity 2, ofArity 0] [1, 2])).outcome =
          .ok (.error (.ambiguous (ofArity 3).target targets))) := by
  have htied := outcome_choose_edited (Criterion.comparison .priority)
    (fun _ left right => Comparison.preferGreater left.target.priority right.target.priority)
    (ofArity 3).target [ofArity 1, ofArity 2, ofArity 0] fun _ _ _ _ => rfl
  have hchosen := outcome_choose_edited (Criterion.comparison .arity)
    (fun _ left right => Comparison.preferGreater left.target.arity right.target.arity)
    (ofArity 3).target [ofArity 1, ofArity 2, ofArity 0] fun _ _ _ _ => rfl
  obtain ⟨-, moved, rfl, -, hmoved⟩ := (htied.1 [2, 0, 1] (by decide)).2.2 _ rfl
  exact ⟨hmoved, (hchosen.2 [1, 2] (by decide) 0 1 rfl).2 (ofArity 2) rfl⟩

end Delegation
