import Delegation.Proofs.Unbeaten
import Mathlib.Data.Fintype.EquivFin
import Mathlib.Data.Fintype.Card
import Mathlib.Order.WellFounded

/-!
# Preference among positions

Of two or more candidates the only unbeaten one is chosen.  Whom it is not
preferred to is beaten by a third candidate, and is not preferred to it either
where the two orders of a pair are answered by verdicts that swap into each
other.  Where beating is transitive, the chosen candidate beats all others: from
any other position one comes to it by going from a beaten position to one that
beats it.
-/

namespace Delegation

/-- Both orders of the two candidates are answered, and their verdicts swap into each other. -/
def Comparison.SwapsAt (comparison : Comparison) (source : Method) (left right : Candidate) :
    Prop :=
  ∃ verdict, (comparison source left right).outcome = .ok verdict ∧
    (comparison source right left).outcome = .ok verdict.swap

/-- The candidate is preferred to the one at every other position. -/
def Choice.Preferred (comparison : Comparison) (source : Method) (candidates : List Candidate)
    (choice : Choice) : Prop :=
  candidates[choice.position]? = some choice.candidate ∧
    ∀ other rival, other ≠ choice.position → candidates[other]? = some rival →
      (comparison source choice.candidate rival).outcome = .ok .left

/-- The comparison of the two positions' candidates, which may be one, prefers the left one. -/
def Choice.PrefersAt (comparison : Comparison) (source : Method) (candidates : List Candidate)
    (first second : Nat) : Prop :=
  ∃ left right, candidates[first]? = some left ∧ candidates[second]? = some right ∧
    (comparison source left right).outcome = .ok .left

/-- Failing counts as knowing nothing, so a side is preferred only where the run succeeds. -/
theorem Comparison.verdict_eq_left_iff {comparison : Comparison} {source : Method}
    {left right : Candidate} :
    comparison.verdict source left right = .left ↔
      (comparison source left right).outcome = .ok .left := by
  unfold verdict
  cases (comparison source left right).outcome with
  | error missing => simp
  | ok verdict => simp

/-! ## Swapping pairs -/

namespace Comparison.SwapsAt

variable {comparison : Comparison} {source : Method} {left right : Candidate}

theorem symm (h : comparison.SwapsAt source left right) :
    comparison.SwapsAt source right left := by
  obtain ⟨verdict, hleft, hright⟩ := h
  exact ⟨verdict.swap, hright, by rw [Verdict.swap_swap, hleft]⟩

theorem outcome_eq (h : comparison.SwapsAt source left right) :
    (comparison source left right).outcome = .ok (comparison.verdict source left right) :=
  Answers.outcome_eq ⟨_, h.choose_spec.1⟩

theorem verdict_swap (h : comparison.SwapsAt source left right) :
    comparison.verdict source left right = (comparison.verdict source right left).swap := by
  obtain ⟨verdict, hleft, hright⟩ := h
  rw [Comparison.verdict, Comparison.verdict, hleft, hright]
  exact (Verdict.swap_swap verdict).symm

theorem verdict_eq_right_iff (h : comparison.SwapsAt source left right) :
    comparison.verdict source left right = .right ↔
      comparison.verdict source right left = .left := by
  rw [h.verdict_swap]
  cases comparison.verdict source right left <;> decide

theorem of_pairwise {candidates : List Candidate}
    (h : candidates.Pairwise (comparison.SwapsAt source)) {first second : Nat}
    (hne : first ≠ second) (hleft : candidates[first]? = some left)
    (hright : candidates[second]? = some right) : comparison.SwapsAt source left right := by
  obtain ⟨hfirst, rfl⟩ := List.getElem?_eq_some_iff.mp hleft
  obtain ⟨hsecond, rfl⟩ := List.getElem?_eq_some_iff.mp hright
  rcases Nat.lt_or_gt_of_ne hne with hlt | hlt
  · exact List.pairwise_iff_getElem.mp h first second hfirst hsecond hlt
  · exact (List.pairwise_iff_getElem.mp h second first hsecond hfirst hlt).symm

end Comparison.SwapsAt

namespace Choice

variable {verdict : Candidate → Candidate → Verdict} {candidates : List Candidate}

/-! ## Rivals of a position -/

theorem beats_iff {first second : Nat} {left right : Candidate}
    (hleft : candidates[first]? = some left) (hright : candidates[second]? = some right) :
    Beats verdict candidates first second ↔ first ≠ second ∧ verdict left right = .left := by
  simp [Beats, hleft, hright]

theorem beaten_iff {position : Nat} {candidate : Candidate}
    (h : candidates[position]? = some candidate) :
    Beaten verdict candidates position ↔
      ∃ other rival, other ≠ position ∧ candidates[other]? = some rival ∧
        verdict rival candidate = .left := by
  constructor
  · rintro ⟨other, hlt, hbeats⟩
    have hrival : candidates[other]? = some candidates[other] := List.getElem?_eq_getElem hlt
    obtain ⟨hne, hleft⟩ := (beats_iff hrival h).mp hbeats
    exact ⟨other, candidates[other], hne, hrival, hleft⟩
  · rintro ⟨other, rival, hne, hrival, hleft⟩
    exact ⟨other, (List.getElem?_eq_some_iff.mp hrival).1, (beats_iff hrival h).mpr ⟨hne, hleft⟩⟩

theorem mem_unbeatenPositions {position : Nat} :
    position ∈ unbeatenPositions verdict candidates ↔
      position < candidates.length ∧ ¬ Beaten verdict candidates position := by
  simp [unbeatenPositions]

/-! ## Transitive beating -/

theorem wellFounded_beats (htrans : IsTrans Nat (Beats verdict candidates)) :
    WellFounded fun first second : Fin candidates.length =>
      Beats verdict candidates first second := by
  let above (first second : Fin candidates.length) : Prop :=
    Beats verdict candidates first second
  have hirrefl : Std.Irrefl above := ⟨fun position hself => hself.1 rfl⟩
  have habove : IsTrans _ above := ⟨fun first second third => htrans.trans first second third⟩
  exact Finite.wellFounded_of_trans_of_irrefl above

/-- Beating is transitive where the candidate of the greater key is preferred. -/
theorem isTrans_beats_of_key {Key : Type} [Preorder Key] {key : Candidate → Key}
    (h : ∀ left right, verdict left right = .left ↔ key right < key left)
    (candidates : List Candidate) : IsTrans Nat (Beats verdict candidates) where
  trans := by
    rintro first second third ⟨-, left, hleft, middle, hmiddle, hlower⟩
      ⟨-, middle', hmiddle', right, hright, hupper⟩
    cases hmiddle.symm.trans hmiddle'
    rw [h] at hlower hupper
    have hlt := hupper.trans hlower
    refine ⟨?_, left, hleft, right, hright, (h left right).mpr hlt⟩
    rintro rfl
    cases hleft.symm.trans hright
    exact lt_irrefl _ hlt

/-- A position that no position beats is minimal in the well-founded order of beating. -/
theorem exists_unbeaten (htrans : IsTrans Nat (Beats verdict candidates))
    (hne : candidates ≠ []) :
    ∃ position < candidates.length, ¬ Beaten verdict candidates position := by
  have hlength : 0 < candidates.length := List.length_pos_iff.mpr hne
  obtain ⟨position, -, hminimal⟩ :=
    (wellFounded_beats htrans).has_min Set.univ ⟨⟨0, hlength⟩, trivial⟩
  refine ⟨position, position.isLt, ?_⟩
  rintro ⟨other, hother, hbeats⟩
  exact hminimal ⟨other, hother⟩ trivial hbeats

theorem unbeaten_ne_nil (htrans : IsTrans Nat (Beats verdict candidates))
    (hne : candidates ≠ []) : unbeaten verdict candidates ≠ [] := by
  obtain ⟨position, hlt, hunbeaten⟩ := exists_unbeaten htrans hne
  have hmem : position ∈ unbeatenPositions verdict candidates :=
    mem_unbeatenPositions.mpr ⟨hlt, hunbeaten⟩
  intro hnil
  rw [← map_position_unbeaten, hnil] at hmem
  cases hmem

/-- Two positions that beat each other would be preferred to themselves. -/
theorem isTrans_beats_of_prefersAt {comparison : Comparison} {source : Method}
    (h : IsStrictOrder Nat (PrefersAt comparison source candidates)) :
    IsTrans Nat (Beats (comparison.verdict source) candidates) where
  trans := by
    rintro first second third ⟨-, left, hleft, middle, hmiddle, hlower⟩
      ⟨-, middle', hmiddle', right, hright, hupper⟩
    rw [Comparison.verdict_eq_left_iff] at hlower hupper
    have hprefers : PrefersAt comparison source candidates first third :=
      h.trans first second third ⟨left, middle, hleft, hmiddle, hlower⟩
        ⟨middle', right, hmiddle', hright, hupper⟩
    refine ⟨?_, left, hleft, right, hright, ?_⟩
    · rintro rfl
      exact h.irrefl first hprefers
    · obtain ⟨left', right', hleft', hright', houtcome⟩ := hprefers
      cases hleft.symm.trans hleft'
      cases hright.symm.trans hright'
      exact Comparison.verdict_eq_left_iff.mpr houtcome

/-! ## The only unbeaten position -/

theorem unbeatenPositions_eq_singleton_iff {position : Nat} :
    unbeatenPositions verdict candidates = [position] ↔
      ∀ other, other < candidates.length ∧ ¬ Beaten verdict candidates other ↔
        other = position := by
  simp only [← mem_unbeatenPositions]
  constructor
  · intro h other
    rw [h, List.mem_singleton]
  · intro h
    have hnodup : (unbeatenPositions verdict candidates).Nodup := List.nodup_range.filter _
    have hperm : (unbeatenPositions verdict candidates).Perm [position] := by
      rw [List.perm_ext_iff_of_nodup hnodup (List.nodup_singleton position)]
      intro other
      rw [h, List.mem_singleton]
    exact List.perm_singleton.mp hperm

section

variable {winner : Nat} (hsole : unbeatenPositions verdict candidates = [winner])

include hsole

theorem not_beaten_of_sole : ¬ Beaten verdict candidates winner :=
  ((unbeatenPositions_eq_singleton_iff.mp hsole winner).mpr rfl).2

theorem beaten_of_ne_sole {other : Nat} (hother : other < candidates.length)
    (hne : other ≠ winner) : Beaten verdict candidates other := by
  by_contra hunbeaten
  exact hne ((unbeatenPositions_eq_singleton_iff.mp hsole other).mp ⟨hother, hunbeaten⟩)

/-- The induction goes up along beating, which is well-founded on the finitely many positions. -/
theorem beats_of_sole (htrans : IsTrans Nat (Beats verdict candidates)) {other : Nat}
    (hother : other < candidates.length) (hne : other ≠ winner) :
    Beats verdict candidates winner other := by
  have hwell := wellFounded_beats htrans
  have hbeats : ∀ position : Fin candidates.length, position.val ≠ winner →
      Beats verdict candidates winner position := by
    intro position
    induction position using hwell.induction with
    | _ position ih =>
        intro hposition
        obtain ⟨third, hthird, hdown⟩ := beaten_of_ne_sole hsole position.isLt hposition
        by_cases hwinner : third = winner
        · exact hwinner ▸ hdown
        · exact htrans.trans _ _ _ (ih ⟨third, hthird⟩ hdown hwinner) hdown
  exact hbeats ⟨other, hother⟩ hne

end

/-- Who beats everybody else is beaten by nobody, or it would beat itself. -/
theorem unbeatenPositions_eq_singleton_iff_beats
    (htrans : IsTrans Nat (Beats verdict candidates)) {position : Nat}
    (hposition : position < candidates.length) :
    unbeatenPositions verdict candidates = [position] ↔
      ∀ other < candidates.length, other ≠ position →
        Beats verdict candidates position other := by
  constructor
  · intro hsole other hother hne
    exact beats_of_sole hsole htrans hother hne
  · intro hbeats
    rw [unbeatenPositions_eq_singleton_iff]
    intro other
    constructor
    · rintro ⟨hother, hunbeaten⟩
      by_contra hne
      exact hunbeaten ⟨position, hposition, hbeats other hother hne⟩
    · rintro rfl
      refine ⟨hposition, ?_⟩
      rintro ⟨third, hthird, hup⟩
      have hself := htrans.trans third other third hup (hbeats third hthird hup.1)
      exact hself.1 rfl

theorem chooseBy_eq_ok_iff_beats {verdict : Method → Candidate → Candidate → Verdict}
    {source : Method} (htrans : IsTrans Nat (Beats (verdict source) candidates))
    {choice : Choice} :
    chooseBy verdict source candidates = .ok choice ↔
      candidates[choice.position]? = some choice.candidate ∧
        ∀ other < candidates.length, other ≠ choice.position →
          Beats (verdict source) candidates choice.position other := by
  rw [chooseBy_eq_ok_iff]
  refine and_congr_right fun hcandidate => ?_
  exact unbeatenPositions_eq_singleton_iff_beats htrans (List.getElem?_eq_some_iff.mp hcandidate).1

/-! ## The chosen candidate and its rivals -/

section

variable {comparison : Comparison} {source : Method} {choice : Choice}
  (hchoice : candidates[choice.position]? = some choice.candidate)

include hchoice

theorem preferred_of_beats
    (hbeats : ∀ other < candidates.length, other ≠ choice.position →
      Beats (comparison.verdict source) candidates choice.position other) :
    choice.Preferred comparison source candidates := by
  refine ⟨hchoice, fun other rival hne hrival => ?_⟩
  have hlt := (List.getElem?_eq_some_iff.mp hrival).1
  exact Comparison.verdict_eq_left_iff.mp ((beats_iff hchoice hrival).mp (hbeats other hlt hne)).2

variable (hsole : unbeatenPositions (comparison.verdict source) candidates = [choice.position])
  {other : Nat} {rival : Candidate} (hne : other ≠ choice.position)
  (hrival : candidates[other]? = some rival)

include hsole hne hrival

theorem verdict_ne_right_of_sole (hswaps : comparison.SwapsAt source choice.candidate rival) :
    comparison.verdict source choice.candidate rival ≠ .right := by
  intro hright
  exact not_beaten_of_sole hsole ((beaten_iff hchoice).mpr
    ⟨other, rival, hne, hrival, hswaps.verdict_eq_right_iff.mp hright⟩)

/-- Whom the only unbeaten candidate is not preferred to, a third candidate is. -/
theorem exists_stronger_of_sole
    (hnot : comparison.verdict source choice.candidate rival ≠ .left) :
    ∃ third stronger, third ≠ choice.position ∧ third ≠ other ∧
      candidates[third]? = some stronger ∧
      (comparison source stronger rival).outcome = .ok .left := by
  have hbeaten := beaten_of_ne_sole hsole (List.getElem?_eq_some_iff.mp hrival).1 hne
  obtain ⟨third, stronger, hthird, hstronger, hverdict⟩ := (beaten_iff hrival).mp hbeaten
  refine ⟨third, stronger, ?_, hthird, hstronger, Comparison.verdict_eq_left_iff.mp hverdict⟩
  rintro rfl
  rw [hchoice, Option.some.injEq] at hstronger
  exact hnot (hstronger ▸ hverdict)

end

end Choice

theorem outcome_choose_eq_ok_iff {comparison : Comparison} {source : Method}
    {candidates : List Candidate}
    (h : ∀ left ∈ candidates, ∀ right ∈ candidates, comparison.Answers source left right)
    (htwo : 2 ≤ candidates.length) {choice : Choice} :
    (choose comparison source candidates).outcome = .ok (.ok choice) ↔
      candidates[choice.position]? = some choice.candidate ∧
        Choice.unbeatenPositions (comparison.verdict source) candidates = [choice.position] := by
  rw [outcome_choose_of_answers h, Except.ok.injEq, Choice.chooseBy_of_two_le _ source htwo,
    Choice.settle_eq_ok_iff, Choice.unbeaten_eq_singleton_iff]

end Delegation
