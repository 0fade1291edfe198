import Delegation.Choice
import Delegation.Criterion
import Delegation.Proofs.Outcomes
import Delegation.Proofs.Positions

/-!
# Unbeaten positions

Which candidate is chosen depends on the positions that no other position
beats, and on nothing else.  Candidates count by their position, so equal
candidates at two positions may beat each other.
-/

namespace Delegation

namespace Choice

/-! ## Positions that beat one another -/

section

variable (verdict : Candidate → Candidate → Verdict) (candidates : List Candidate)

/-- The candidate at the first position, on the left, is preferred to the one at the second. -/
def Beats (first second : Nat) : Prop :=
  first ≠ second ∧ ∃ left ∈ candidates[first]?, ∃ right ∈ candidates[second]?,
    verdict left right = .left

def Beaten (position : Nat) : Prop :=
  ∃ other < candidates.length, Beats verdict candidates other position

instance (first second : Nat) : Decidable (Beats verdict candidates first second) :=
  inferInstanceAs (Decidable (_ ∧ _))

instance (position : Nat) : Decidable (Beaten verdict candidates position) :=
  inferInstanceAs (Decidable (∃ other < candidates.length, _))

def unbeatenPositions : List Nat :=
  (List.range candidates.length).filter fun position => ¬ Beaten verdict candidates position

def targetsAt (positions : List Nat) : List Method :=
  positions.filterMap fun position => candidates[position]?.map Candidate.target

/-- The position is reported unless a candidate is chosen: nobody, or everybody, is beaten. -/
def Reported (position : Nat) : Prop :=
  Beaten verdict candidates position → ∀ other < candidates.length, Beaten verdict candidates other

instance (position : Nat) : Decidable (Reported verdict candidates position) :=
  inferInstanceAs (Decidable (_ → _))

def reportedPositions : List Nat :=
  (List.range candidates.length).filter fun position => Reported verdict candidates position

end

variable {verdict : Candidate → Candidate → Verdict} {candidates : List Candidate}

theorem beatenBy_eraseIdx_iff {candidate : Candidate} {position : Nat}
    (h : candidates[position]? = some candidate) :
    beatenBy verdict candidate (candidates.eraseIdx position) = true ↔
      Beaten verdict candidates position := by
  simp only [beatenBy, List.any_eq_true, List.mem_eraseIdx_iff_getElem?, beq_iff_eq]
  constructor
  · rintro ⟨rival, ⟨other, hne, hrival⟩, hleft⟩
    have hlt := (List.getElem?_eq_some_iff.mp hrival).1
    exact ⟨other, hlt, hne, rival, hrival, candidate, h, hleft⟩
  · rintro ⟨other, -, hne, rival, hrival, right, hright, hleft⟩
    rw [Option.mem_def, h, Option.some.injEq] at hright
    subst hright
    exact ⟨rival, ⟨other, hne, hrival⟩, hleft⟩

/-! ## The kept choices -/

theorem getElem?_position_of_mem_unbeaten {choice : Choice}
    (h : choice ∈ unbeaten verdict candidates) :
    candidates[choice.position]? = some choice.candidate := by
  obtain ⟨⟨candidate, position⟩, hmem, hchoice⟩ := List.mem_filterMap.mp h
  have hat := List.mk_mem_zipIdx_iff_getElem?.mp hmem
  dsimp only at hchoice
  split at hchoice
  · cases hchoice
  · cases hchoice
    exact hat

theorem map_position_unbeaten (verdict : Candidate → Candidate → Verdict)
    (candidates : List Candidate) :
    (unbeaten verdict candidates).map position = unbeatenPositions verdict candidates := by
  have hkept : (unbeaten verdict candidates).map position =
      candidates.zipIdx.filterMap fun entry =>
        if Beaten verdict candidates entry.2 then none else some entry.2 := by
    rw [unbeaten, List.map_filterMap]
    apply List.filterMap_congr
    rintro ⟨candidate, position⟩ hmem
    have hbeaten : beatenBy verdict candidate (candidates.eraseIdx position) = true ↔
        Beaten verdict candidates position :=
      beatenBy_eraseIdx_iff (List.mk_mem_zipIdx_iff_getElem?.mp hmem)
    by_cases h : Beaten verdict candidates position
    · simp [h, hbeaten.mpr h]
    · simp [h, mt hbeaten.mp h]
  have hpositions : candidates.zipIdx.map Prod.snd = List.range candidates.length := by
    rw [List.zipIdx_map_snd, List.range_eq_range']
  rw [hkept, unbeatenPositions, ← hpositions, ← List.filterMap_eq_filter, List.filterMap_map]
  apply List.filterMap_congr
  intro entry _
  by_cases h : Beaten verdict candidates entry.2 <;> simp [Option.guard, h]

theorem targetsAt_map_position {choices : List Choice}
    (h : ∀ choice ∈ choices, candidates[choice.position]? = some choice.candidate) :
    targetsAt candidates (choices.map position) =
      choices.map fun choice => choice.candidate.target := by
  unfold targetsAt
  rw [List.filterMap_map, ← List.filterMap_eq_map]
  apply List.filterMap_congr
  intro choice hchoice
  simp [h choice hchoice]

theorem targetsAt_eq_map_itemsAt (candidates : List Candidate) (positions : List Nat) :
    targetsAt candidates positions = (itemsAt candidates positions).map Candidate.target :=
  List.map_filterMap.symm

theorem targetsAt_range (candidates : List Candidate) :
    targetsAt candidates (List.range candidates.length) = candidates.map Candidate.target := by
  rw [targetsAt_eq_map_itemsAt, itemsAt_range]

theorem targetsAt_unbeatenPositions (verdict : Candidate → Candidate → Verdict)
    (candidates : List Candidate) :
    targetsAt candidates (unbeatenPositions verdict candidates) =
      (unbeaten verdict candidates).map fun choice => choice.candidate.target := by
  rw [← map_position_unbeaten]
  exact targetsAt_map_position fun choice => getElem?_position_of_mem_unbeaten

theorem length_unbeaten (verdict : Candidate → Candidate → Verdict)
    (candidates : List Candidate) :
    (unbeaten verdict candidates).length = (unbeatenPositions verdict candidates).length := by
  rw [← map_position_unbeaten, List.length_map]

theorem unbeaten_eq_singleton_iff {choice : Choice} :
    unbeaten verdict candidates = [choice] ↔
      candidates[choice.position]? = some choice.candidate ∧
        unbeatenPositions verdict candidates = [choice.position] := by
  rw [← map_position_unbeaten]
  constructor
  · intro h
    exact ⟨getElem?_position_of_mem_unbeaten (h ▸ List.mem_singleton_self choice), by simp [h]⟩
  · rintro ⟨hat, hpositions⟩
    obtain ⟨only, honly, hposition⟩ := List.map_eq_singleton_iff.mp hpositions
    have honlyAt := getElem?_position_of_mem_unbeaten (honly ▸ List.mem_singleton_self only)
    rw [hposition, hat, Option.some.injEq] at honlyAt
    obtain ⟨position, candidate⟩ := choice
    obtain ⟨onlyPosition, onlyCandidate⟩ := only
    cases hposition
    cases honlyAt
    exact honly

/-! ## Settling -/

theorem settle_eq_ok_iff {source : Method} {choices : List Choice} {choice : Choice} :
    settle source candidates choices = .ok choice ↔ choices = [choice] := by
  match choices with
  | [] => simp [settle]
  | [only] => simp [settle]
  | first :: second :: others => simp [settle]

theorem settle_of_two_le {choices : List Choice} (h : 2 ≤ choices.length) (source : Method) :
    settle source candidates choices =
      .error (.ambiguous source (choices.map fun choice => choice.candidate.target)) := by
  match choices, h with
  | first :: second :: others, _ => rfl

theorem settle_ne_noCandidates (source : Method) (choices : List Choice) :
    settle source candidates choices ≠ .error (.noCandidates source) := by
  match choices with
  | [] => simp [settle]
  | [only] => simp [settle]
  | first :: second :: others => simp [settle]

/-- A single candidate is unbeaten, so it is settled on without asking. -/
theorem chooseBy_of_ne_nil (verdict : Method → Candidate → Candidate → Verdict)
    (source : Method) (h : candidates ≠ []) :
    chooseBy verdict source candidates =
      settle source candidates (unbeaten (verdict source) candidates) := by
  match candidates, h with
  | [only], _ => rfl
  | first :: second :: others, _ => rfl

theorem chooseBy_of_two_le (verdict : Method → Candidate → Candidate → Verdict)
    (source : Method) (h : 2 ≤ candidates.length) :
    chooseBy verdict source candidates =
      settle source candidates (unbeaten (verdict source) candidates) :=
  chooseBy_of_ne_nil verdict source (List.ne_nil_of_length_pos (by omega))

theorem chooseBy_eq_noCandidates_iff {verdict : Method → Candidate → Candidate → Verdict}
    {source : Method} :
    chooseBy verdict source candidates = .error (.noCandidates source) ↔ candidates = [] := by
  match candidates with
  | [] => simp [chooseBy]
  | [only] => simp [chooseBy]
  | first :: second :: others =>
      rw [chooseBy_of_two_le verdict source (by simp)]
      simp [settle_ne_noCandidates]

theorem chooseBy_eq_ok_iff {verdict : Method → Candidate → Candidate → Verdict}
    {source : Method} {choice : Choice} :
    chooseBy verdict source candidates = .ok choice ↔
      candidates[choice.position]? = some choice.candidate ∧
        unbeatenPositions (verdict source) candidates = [choice.position] := by
  by_cases hnil : candidates = []
  · subst hnil
    simp [chooseBy]
  · rw [chooseBy_of_ne_nil verdict source hnil, settle_eq_ok_iff, unbeaten_eq_singleton_iff]

theorem chooseBy_of_all_beaten {verdict : Method → Candidate → Candidate → Verdict}
    {source : Method} (hne : candidates ≠ [])
    (hnone : unbeatenPositions (verdict source) candidates = []) :
    chooseBy verdict source candidates =
      .error (.ambiguous source (candidates.map Candidate.target)) := by
  rw [← map_position_unbeaten, List.map_eq_nil_iff] at hnone
  rw [chooseBy_of_ne_nil verdict source hne, hnone, settle]

/-- Where somebody is unbeaten and nobody is chosen, there are several to report. -/
theorem chooseBy_of_not_chosen {verdict : Method → Candidate → Candidate → Verdict}
    {source : Method} (hsome : unbeatenPositions (verdict source) candidates ≠ [])
    (hnot : ∀ choice, chooseBy verdict source candidates ≠ .ok choice) :
    chooseBy verdict source candidates = .error (.ambiguous source
      (targetsAt candidates (unbeatenPositions (verdict source) candidates))) := by
  have hne : candidates ≠ [] := by
    rintro rfl
    exact hsome rfl
  rw [chooseBy_of_ne_nil verdict source hne] at hnot ⊢
  rw [targetsAt_unbeatenPositions]
  match hkept : unbeaten (verdict source) candidates with
  | [] => simp [← map_position_unbeaten, hkept] at hsome
  | [only] => exact absurd (settle_eq_ok_iff.mpr hkept) (hnot only)
  | first :: second :: others => rw [settle_of_two_le (by simp)]

theorem unbeatenPositions_eq_nil_iff :
    unbeatenPositions verdict candidates = [] ↔
      ∀ position < candidates.length, Beaten verdict candidates position := by
  simp [unbeatenPositions]

theorem reportedPositions_of_eq_nil (hnone : unbeatenPositions verdict candidates = []) :
    reportedPositions verdict candidates = List.range candidates.length :=
  List.filter_eq_self.mpr fun _ _ =>
    decide_eq_true fun _ => unbeatenPositions_eq_nil_iff.mp hnone

theorem reportedPositions_of_ne_nil (hsome : unbeatenPositions verdict candidates ≠ []) :
    reportedPositions verdict candidates = unbeatenPositions verdict candidates := by
  refine List.filter_congr fun position _ => decide_eq_decide.mpr ⟨?_, ?_⟩
  · intro hreported hbeaten
    exact hsome (unbeatenPositions_eq_nil_iff.mpr (hreported hbeaten))
  · intro hunbeaten hbeaten
    exact absurd hbeaten hunbeaten

theorem chooseBy_eq_ambiguous_iff {verdict : Method → Candidate → Candidate → Verdict}
    {source : Method} {targets : List Method} :
    chooseBy verdict source candidates = .error (.ambiguous source targets) ↔
      candidates ≠ [] ∧ (∀ choice, chooseBy verdict source candidates ≠ .ok choice) ∧
        targets = targetsAt candidates (reportedPositions (verdict source) candidates) := by
  have hreported (hne : candidates ≠ [])
      (hnot : ∀ choice, chooseBy verdict source candidates ≠ .ok choice) :
      chooseBy verdict source candidates = .error (.ambiguous source
        (targetsAt candidates (reportedPositions (verdict source) candidates))) := by
    by_cases hnone : unbeatenPositions (verdict source) candidates = []
    · rw [reportedPositions_of_eq_nil hnone, targetsAt_range, chooseBy_of_all_beaten hne hnone]
    · rw [reportedPositions_of_ne_nil hnone, chooseBy_of_not_chosen hnone hnot]
  constructor
  · intro hambiguous
    have hne : candidates ≠ [] := by
      rintro rfl
      cases hambiguous
    have hnot : ∀ choice, chooseBy verdict source candidates ≠ .ok choice := by
      simp [hambiguous]
    have hsame := hambiguous.symm.trans (hreported hne hnot)
    exact ⟨hne, hnot, by simpa using hsame⟩
  · rintro ⟨hne, hnot, rfl⟩
    exact hreported hne hnot

theorem targetsAt_unbeatenPositions_eq_all_iff :
    targetsAt candidates (unbeatenPositions verdict candidates) =
        candidates.map Candidate.target ↔
      (unbeatenPositions verdict candidates).length = candidates.length := by
  constructor
  · intro htargets
    rw [targetsAt_unbeatenPositions] at htargets
    simpa [length_unbeaten] using congrArg List.length htargets
  · intro hlength
    have hsublist : (unbeatenPositions verdict candidates).Sublist
        (List.range candidates.length) := List.filter_sublist
    rw [hsublist.eq_of_length (by simpa using hlength), targetsAt_range]

/-- The unbeaten are reported as all candidates when nobody, or everybody, is beaten. -/
theorem settle_unbeaten_eq_all_iff (source : Method) (h : 2 ≤ candidates.length) :
    settle source candidates (unbeaten verdict candidates) =
        .error (.ambiguous source (candidates.map Candidate.target)) ↔
      (∀ position < candidates.length, Beaten verdict candidates position) ∨
        ∀ position < candidates.length, ¬ Beaten verdict candidates position := by
  have hall : (unbeatenPositions verdict candidates).length = candidates.length ↔
      ∀ position < candidates.length, ¬ Beaten verdict candidates position := by
    have hfilter : (unbeatenPositions verdict candidates).length =
        (List.range candidates.length).length ↔ _ := List.length_filter_eq_length_iff
    simpa using hfilter
  rw [← unbeatenPositions_eq_nil_iff, ← hall, ← length_unbeaten]
  have hpositions := map_position_unbeaten verdict candidates
  match hkept : unbeaten verdict candidates with
  | [] =>
      rw [hkept] at hpositions
      simp [settle, ← hpositions]
  | [only] =>
      rw [hkept] at hpositions
      simp only [settle, reduceCtorEq, ← hpositions, List.map_cons, List.map_nil, List.length_cons,
        List.length_nil, false_or, false_iff]
      omega
  | first :: second :: others =>
      rw [hkept] at hpositions
      rw [settle_of_two_le (by simp), ← hkept, ← targetsAt_unbeatenPositions, length_unbeaten,
        Except.error.injEq, ChoiceFault.ambiguous.injEq, targetsAt_unbeatenPositions_eq_all_iff]
      simp [← hpositions]

/-! ## Comparisons that prefer alike -/

theorem outcome_isBeaten_congr {first second : Candidate → Candidate → Inquiry Verdict}
    (candidate : Candidate) (rivals : List Candidate)
    (h : ∀ rival ∈ rivals, (first rival candidate).outcome.map (· == .left) =
      (second rival candidate).outcome.map (· == .left)) :
    (isBeaten first candidate rivals).outcome = (isBeaten second candidate rivals).outcome := by
  induction rivals with
  | nil => rfl
  | cons rival rivals ih =>
      have hrival := h rival (by simp)
      have hrivals := ih fun other hother => h other (by simp [hother])
      rw [isBeaten, isBeaten, Inquiry.outcome_bind, Inquiry.outcome_bind]
      rcases Inquiry.outcomes_of_map_eq hrival with
        ⟨missing, hfirst, hsecond⟩ | ⟨one, two, hfirst, hsecond, hsame⟩
      · rw [hfirst, hsecond]
        rfl
      · have hleft : one = .left ↔ two = .left := by
          rw [← beq_iff_eq, hsame, beq_iff_eq]
        rw [hfirst, hsecond]
        change Inquiry.outcome (if one = .left then pure true else _) =
          Inquiry.outcome (if two = .left then pure true else _)
        by_cases hone : one = .left
        · rw [if_pos hone, if_pos (hleft.mp hone)]
        · rw [if_neg hone, if_neg (mt hleft.mpr hone)]
          exact hrivals

theorem outcome_keepUnbeaten_congr {first second : Candidate → Candidate → Inquiry Verdict}
    {candidates : List Candidate}
    (h : ∀ position candidate, candidates[position]? = some candidate →
      ∀ rival ∈ candidates.eraseIdx position, (first rival candidate).outcome.map (· == .left) =
        (second rival candidate).outcome.map (· == .left))
    (others : List (Candidate × Nat))
    (hothers : ∀ other ∈ others, candidates[other.2]? = some other.1) :
    (keepUnbeaten first candidates others).outcome =
      (keepUnbeaten second candidates others).outcome := by
  induction others with
  | nil => rfl
  | cons other others ih =>
      have hbeaten := outcome_isBeaten_congr other.1 (candidates.eraseIdx other.2)
        (h other.2 other.1 (hothers other (by simp)))
      have hrest := ih fun another hanother => hothers another (by simp [hanother])
      simp only [keepUnbeaten, Inquiry.outcome_bind, hbeaten, hrest, Inquiry.outcome_pure]

end Choice

open Choice

/-- A choice asks of a comparison only whether the left one of two positions is preferred. -/
theorem outcome_choose_congr_left {first second : Comparison} {source : Method}
    {candidates : List Candidate}
    (h : ∀ position candidate, candidates[position]? = some candidate →
      ∀ rival ∈ candidates.eraseIdx position,
        (first source rival candidate).outcome.map (· == .left) =
          (second source rival candidate).outcome.map (· == .left)) :
    (choose first source candidates).outcome = (choose second source candidates).outcome := by
  match candidates, h with
  | [], _ => rfl
  | [only], _ => rfl
  | one :: two :: others, h =>
      have hkept := outcome_keepUnbeaten_congr h (one :: two :: others).zipIdx
        fun entry hentry => List.mk_mem_zipIdx_iff_getElem?.mp hentry
      rw [choose, choose]
      · simp only [Inquiry.outcome_bind, hkept, Inquiry.log, Inquiry.outcome_pure]
      all_goals simp

theorem outcome_choose_congr {first second : Comparison} {source : Method}
    {candidates : List Candidate}
    (h : ∀ left ∈ candidates, ∀ right ∈ candidates,
      (first source left right).outcome.map Verdict.side? =
        (second source left right).outcome.map Verdict.side?) :
    (choose first source candidates).outcome = (choose second source candidates).outcome := by
  apply outcome_choose_congr_left
  intro position candidate hcandidate rival hrival
  have hsides := h rival (List.mem_of_mem_eraseIdx hrival) candidate
    (List.mem_of_getElem? hcandidate)
  rcases Inquiry.outcomes_of_map_eq hsides with
    ⟨missing, hfirst, hsecond⟩ | ⟨one, two, hfirst, hsecond, hside⟩
  · rw [hfirst, hsecond]
  · rw [hfirst, hsecond]
    refine congrArg Except.ok ?_
    rw [Bool.eq_iff_iff, beq_iff_eq, beq_iff_eq, ← Verdict.favouring, ← Verdict.side?_eq_some_iff,
      ← Verdict.side?_eq_some_iff, hside]

theorem outcome_choose_of_answers {comparison : Comparison} {source : Method}
    {candidates : List Candidate}
    (h : ∀ left ∈ candidates, ∀ right ∈ candidates, comparison.Answers source left right) :
    (choose comparison source candidates).outcome =
      .ok (chooseBy comparison.verdict source candidates) :=
  outcome_choose fun left hleft right hright => (h left hleft right hright).outcome_eq

/--
Of two or more candidates the only unbeaten one is chosen, and several unbeaten ones are
reported.  All are reported when everybody is beaten, and, as the unbeaten, when nobody is.
-/
theorem outcome_choose_unbeaten (comparison : Comparison)
    (verdict : Method → Candidate → Candidate → Verdict) (source : Method)
    (candidates : List Candidate)
    (h : ∀ left ∈ candidates, ∀ right ∈ candidates,
      (comparison source left right).outcome = .ok (verdict source left right)) :
    ((choose comparison source candidates).outcome = .ok (.error (.noCandidates source)) ↔
      candidates = []) ∧
    (∀ only, candidates = [only] →
      choose comparison source candidates = pure (.ok ⟨0, only⟩)) ∧
    (2 ≤ candidates.length →
      (∀ choice : Choice, (choose comparison source candidates).outcome = .ok (.ok choice) ↔
        candidates[choice.position]? = some choice.candidate ∧
          unbeatenPositions (verdict source) candidates = [choice.position]) ∧
      (2 ≤ (unbeatenPositions (verdict source) candidates).length →
        (choose comparison source candidates).outcome = .ok (.error (.ambiguous source
          (targetsAt candidates (unbeatenPositions (verdict source) candidates))))) ∧
      ((choose comparison source candidates).outcome =
          .ok (.error (.ambiguous source (candidates.map Candidate.target))) ↔
        (∀ position < candidates.length, Beaten (verdict source) candidates position) ∨
          ∀ position < candidates.length, ¬ Beaten (verdict source) candidates position)) := by
  have houtcome := outcome_choose h
  refine ⟨?_, ?_, ?_⟩
  · rw [houtcome, Except.ok.injEq, chooseBy_eq_noCandidates_iff]
  · rintro only rfl
    rfl
  · intro htwo
    rw [houtcome, chooseBy_of_two_le verdict source htwo]
    simp only [Except.ok.injEq]
    refine ⟨fun choice => ?_, ?_, settle_unbeaten_eq_all_iff source htwo⟩
    · rw [settle_eq_ok_iff, unbeaten_eq_singleton_iff]
    · intro hseveral
      rw [← length_unbeaten] at hseveral
      rw [settle_of_two_le hseveral, targetsAt_unbeatenPositions]

def ofArity (arity : Nat) : Candidate :=
  (Binding.identity
    { owner := .root, name := "accept",
      parameters := List.replicate arity (.primitive .int) }).candidate

theorem outcome_choose_unbeaten_of_arity :
    (choose (Criterion.comparison .arity) (ofArity 3).target
      [ofArity 1, ofArity 2, ofArity 0, ofArity 2]).outcome =
        .ok (.error (.ambiguous (ofArity 3).target
          [(ofArity 2).target, (ofArity 2).target])) := by
  have hspec := outcome_choose_unbeaten (Criterion.comparison .arity)
    (fun _ left right => Comparison.preferGreater left.target.arity right.target.arity)
    (ofArity 3).target [ofArity 1, ofArity 2, ofArity 0, ofArity 2] fun _ _ _ _ => rfl
  exact (hspec.2.2 (by decide)).2.1 (by decide)

/-- Two candidates that tie are both reported, and neither is beaten. -/
theorem all_reported_not_only_if_all_beaten :
    ¬ ∀ (comparison : Comparison) (verdict : Method → Candidate → Candidate → Verdict)
      (source : Method) (candidates : List Candidate),
      (∀ left ∈ candidates, ∀ right ∈ candidates,
        (comparison source left right).outcome = .ok (verdict source left right)) →
      2 ≤ candidates.length →
      ((choose comparison source candidates).outcome =
          .ok (.error (.ambiguous source (candidates.map Candidate.target))) ↔
        ∀ position < candidates.length, Beaten (verdict source) candidates position) := by
  intro h
  have hreported := h (Criterion.comparison .arity)
    (fun _ left right => Comparison.preferGreater left.target.arity right.target.arity)
    (ofArity 1).target [ofArity 1, ofArity 1] (fun _ _ _ _ => rfl) (by decide)
  have hbeaten := hreported.mp rfl 0 (by decide)
  revert hbeaten
  decide

end Delegation
