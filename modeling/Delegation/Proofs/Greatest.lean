import Delegation.Proofs.Rankings
import Delegation.Proofs.Sublists
import Mathlib.Data.Fintype.Lattice
import Mathlib.Data.Int.Order.Basic
import Mathlib.Data.List.Lex

/-!
# Greatest candidates

Criteria that rank targets by numbers rank them together by the list of these
numbers, in lexicographic order, so a chain of them chooses the candidate whose
list is greater than all others, and else reports those that share the greatest.
-/

namespace Delegation

namespace Choice

/-! ## The greatest of a list -/

section

variable {Key : Type} [LinearOrder Key] (key : Candidate → Key) (candidates : List Candidate)

/-- The candidates of the greatest key, in order. -/
def greatest : List Candidate :=
  candidates.filter fun candidate => ∀ rival ∈ candidates, key rival ≤ key candidate

def greatestPositions : List Nat :=
  (List.range candidates.length).filter fun position =>
    ∃ candidate ∈ candidates[position]?, ∀ rival ∈ candidates, key rival ≤ key candidate

theorem itemsAt_greatestPositions :
    itemsAt candidates (greatestPositions key candidates) = greatest key candidates :=
  itemsAt_filter_range candidates fun position candidate hcandidate => by simp [hcandidate]

theorem greatestPositions_sublist :
    (greatestPositions key candidates).Sublist (List.range candidates.length) :=
  List.filter_sublist

variable {key candidates}

theorem mem_greatestPositions {position : Nat} :
    position ∈ greatestPositions key candidates ↔
      ∃ candidate ∈ candidates[position]?, ∀ rival ∈ candidates, key rival ≤ key candidate := by
  rw [greatestPositions, List.mem_filter, decide_eq_true_iff, List.mem_range, and_iff_right_iff_imp]
  rintro ⟨candidate, hcandidate, -⟩
  exact (List.getElem?_eq_some_iff.mp hcandidate).1

theorem mem_greatestPositions_iff {position : Nat} {candidate : Candidate}
    (h : candidates[position]? = some candidate) :
    position ∈ greatestPositions key candidates ↔
      ∀ rival ∈ candidates, key rival ≤ key candidate := by
  simp [mem_greatestPositions, h]

theorem exists_greatestPosition (key : Candidate → Key) (hne : candidates ≠ []) :
    ∃ (position : Nat) (candidate : Candidate), candidates[position]? = some candidate ∧
      ∀ rival ∈ candidates, key rival ≤ key candidate := by
  have hpositions : Nonempty (Fin candidates.length) :=
    ⟨⟨0, List.length_pos_iff.mpr hne⟩⟩
  obtain ⟨position, hgreatest⟩ :=
    Finite.exists_max fun position : Fin candidates.length => key candidates[position]
  refine ⟨position, candidates[position], List.getElem?_eq_getElem position.isLt, ?_⟩
  intro rival hrival
  obtain ⟨other, hother, rfl⟩ := List.getElem_of_mem hrival
  exact hgreatest ⟨other, hother⟩

theorem greatest_ne_nil (key : Candidate → Key) (hne : candidates ≠ []) :
    greatest key candidates ≠ [] := by
  obtain ⟨position, candidate, hcandidate, hgreatest⟩ := exists_greatestPosition key hne
  refine List.ne_nil_of_mem (List.mem_filter.mpr ⟨List.mem_of_getElem? hcandidate, ?_⟩)
  exact decide_eq_true hgreatest

end

/-! ## Preference by key -/

section

variable {Key : Type} [LinearOrder Key] {key : Candidate → Key} {candidates : List Candidate}
  {verdict : Candidate → Candidate → Verdict}
  (h : ∀ left right, verdict left right = .left ↔ key right < key left)

include h

theorem beaten_iff_of_key {position : Nat} {candidate : Candidate}
    (hcandidate : candidates[position]? = some candidate) :
    Beaten verdict candidates position ↔ ∃ rival ∈ candidates, key candidate < key rival := by
  rw [beaten_iff hcandidate]
  constructor
  · rintro ⟨other, rival, -, hrival, hverdict⟩
    exact ⟨rival, List.mem_of_getElem? hrival, (h rival candidate).mp hverdict⟩
  · rintro ⟨rival, hmem, hlt⟩
    obtain ⟨other, hrival⟩ := List.mem_iff_getElem?.mp hmem
    refine ⟨other, rival, ?_, hrival, (h rival candidate).mpr hlt⟩
    rintro rfl
    cases hrival.symm.trans hcandidate
    exact lt_irrefl _ hlt

theorem unbeatenPositions_eq_greatestPositions :
    unbeatenPositions verdict candidates = greatestPositions key candidates := by
  apply List.filter_congr
  intro position hposition
  have hcandidate := List.getElem?_eq_getElem (List.mem_range.mp hposition)
  simp [beaten_iff_of_key h hcandidate, hcandidate]

end

/-- By key the candidate above all others is chosen, or else the greatest are reported. -/
theorem chooseBy_of_key {Key : Type} [LinearOrder Key] {key : Candidate → Key}
    {verdict : Method → Candidate → Candidate → Verdict} {source : Method}
    (h : ∀ left right, verdict source left right = .left ↔ key right < key left)
    {candidates : List Candidate} (hne : candidates ≠ []) :
    (∀ choice : Choice, chooseBy verdict source candidates = .ok choice ↔
      candidates[choice.position]? = some choice.candidate ∧
        ∀ other rival, other ≠ choice.position → candidates[other]? = some rival →
          key rival < key choice.candidate) ∧
    ((∀ choice : Choice, chooseBy verdict source candidates ≠ .ok choice) →
      chooseBy verdict source candidates =
        .error (.ambiguous source ((greatest key candidates).map Candidate.target))) := by
  have htrans := isTrans_beats_of_key h candidates
  constructor
  · intro choice
    rw [chooseBy_eq_ok_iff_beats htrans]
    refine and_congr_right fun hcandidate => ?_
    constructor
    · intro hbeats other rival hother hrival
      have hup := hbeats other (List.getElem?_eq_some_iff.mp hrival).1 hother
      exact (h _ _).mp ((beats_iff hcandidate hrival).mp hup).2
    · intro hgreater other hlt hother
      have hrival := List.getElem?_eq_getElem hlt
      exact (beats_iff hcandidate hrival).mpr
        ⟨hother.symm, (h _ _).mpr (hgreater other _ hother hrival)⟩
  · intro hnot
    have hsome : unbeatenPositions (verdict source) candidates ≠ [] := by
      obtain ⟨position, hunbeaten⟩ := exists_unbeaten htrans hne
      exact List.ne_nil_of_mem (mem_unbeatenPositions.mpr hunbeaten)
    rw [chooseBy_of_not_chosen hsome hnot, targetsAt_eq_map_itemsAt,
      unbeatenPositions_eq_greatestPositions h, itemsAt_greatestPositions]

end Choice

open Choice

/-! ## Ranks in lexicographic order -/

namespace Comparison

section

variable {Key : Type} [Preorder Key] [DecidableLT Key] {left right : Key}

theorem side?_preferGreater_eq_left_iff :
    (preferGreater left right).side? = some .left ↔ right < left := by
  rw [Verdict.side?_eq_some_iff, Verdict.favouring, preferGreater_eq_left_iff]

theorem side?_preferGreater_eq_right_iff :
    (preferGreater left right).side? = some .right ↔ left < right := by
  rw [Verdict.side?_eq_some_iff, Verdict.favouring, preferGreater]
  by_cases hright : right < left
  · simp [hright, hright.asymm]
  · by_cases hleft : left < right <;> simp [hright, hleft]

end

/-- Where the first entries tie, the later ones are asked. -/
theorem side?_preferGreater_cons {Key : Type} [LinearOrder Key] (left right : Key)
    (lefts rights : List Key) :
    (preferGreater (left :: lefts) (right :: rights)).side? =
      (preferGreater left right).side?.or (preferGreater lefts rights).side? := by
  simp only [preferGreater, List.cons_lt_cons_iff]
  rcases lt_trichotomy left right with hlt | rfl | hgt
  · simp [hlt, hlt.asymm, hlt.ne', Verdict.side?]
  · simp [Verdict.side?]
  · simp [hgt, Verdict.side?]

end Comparison

namespace Criterion

/-- The numbers by which the criteria rank the target, in order; one that abstains has none. -/
def ranks (criteria : List Criterion) (source target : Method) : List Int :=
  (criteria.filter (· ≠ .abstain)).filterMap fun criterion =>
    criterion.rank?.map fun rank => rank source target

theorem ranks_cons {criterion : Criterion} {rank : Method → Method → Int}
    (hrank : criterion.rank? = some rank) (hne : criterion ≠ .abstain)
    (criteria : List Criterion) (source target : Method) :
    ranks (criterion :: criteria) source target =
      rank source target :: ranks criteria source target := by
  simp [ranks, hne, hrank]

/-- The first ranking criterion to prefer a side prefers the one whose ranks are greater. -/
theorem findSome?_side?_of_ranked {criteria : List Criterion}
    (h : ∀ criterion ∈ criteria, criterion.rank?.isSome) (source : Method)
    (left right : Candidate) :
    criteria.findSome? (fun criterion => (criterion.comparison.verdict source left right).side?) =
      (Comparison.preferGreater (ranks criteria source left.target)
        (ranks criteria source right.target)).side? := by
  induction criteria with
  | nil => rfl
  | cons criterion criteria ih =>
      obtain ⟨rank, hrank⟩ := Option.isSome_iff_exists.mp (h criterion (by simp))
      have hrest := ih fun later hlater => h later (by simp [hlater])
      rw [List.findSome?_cons, side?_verdict_of_rank? hrank, hrest]
      by_cases habstain : criterion = .abstain
      · -- Abstaining prefers nobody and has no entry among the ranks.
        subst habstain
        cases hrank
        rfl
      · rw [ranks_cons hrank habstain, ranks_cons hrank habstain,
          Comparison.side?_preferGreater_cons]
        cases (Comparison.preferGreater (rank source left.target)
          (rank source right.target)).side? <;> rfl

theorem answers_of_rank? {criterion : Criterion} (h : criterion.rank?.isSome) (source : Method)
    (left right : Candidate) : criterion.comparison.Answers source left right := by
  cases criterion with
  | argumentTypes => cases h
  | _ => exact ⟨_, rfl⟩

end Criterion

namespace Resolver

section

variable {resolver : Resolver Criterion}
  (hranked : ∀ criterion ∈ resolver.leaves, criterion.rank?.isSome) (source : Method)

include hranked

theorem answers_of_ranked (left right : Candidate) :
    (resolver.comparison Criterion.comparison).Answers source left right :=
  resolver.answers_of_leaves fun leaf hleaf =>
    Criterion.answers_of_rank? (hranked leaf hleaf) source left right

theorem outcome_eq_favouring_iff_of_ranked (left right : Candidate) {side : Side} :
    (resolver.comparison Criterion.comparison source left right).outcome =
        .ok (.favouring side) ↔
      (Comparison.preferGreater (Criterion.ranks resolver.leaves source left.target)
        (Criterion.ranks resolver.leaves source right.target)).side? = some side := by
  rw [(answers_of_ranked hranked source left right).outcome_eq_favouring_iff,
    resolver.side?_verdict fun leaf hleaf =>
      Criterion.answers_of_rank? (hranked leaf hleaf) source left right,
    Criterion.findSome?_side?_of_ranked hranked]

/--
A resolver of ranking criteria prefers the target whose ranks are lexicographically greater, and
chooses the candidate whose ranks are greater than all others.  If there is none, the targets of
the greatest ranks are reported.
-/
theorem choose_greatest_ranks {candidates : List Candidate} (hne : candidates ≠ []) :
    (∀ left right : Candidate,
      ((resolver.comparison Criterion.comparison source left right).outcome = .ok .left ↔
        Criterion.ranks resolver.leaves source right.target <
          Criterion.ranks resolver.leaves source left.target) ∧
      ((resolver.comparison Criterion.comparison source left right).outcome = .ok .right ↔
        Criterion.ranks resolver.leaves source left.target <
          Criterion.ranks resolver.leaves source right.target)) ∧
    (∀ choice : Choice,
      (choose (resolver.comparison Criterion.comparison) source candidates).outcome =
          .ok (.ok choice) ↔
        candidates[choice.position]? = some choice.candidate ∧
          ∀ other rival, other ≠ choice.position → candidates[other]? = some rival →
            Criterion.ranks resolver.leaves source rival.target <
              Criterion.ranks resolver.leaves source choice.candidate.target) ∧
    ((∀ choice : Choice,
        (choose (resolver.comparison Criterion.comparison) source candidates).outcome ≠
          .ok (.ok choice)) →
      (choose (resolver.comparison Criterion.comparison) source candidates).outcome =
        .ok (.error (.ambiguous source ((greatest (fun candidate =>
          Criterion.ranks resolver.leaves source candidate.target) candidates).map
            Candidate.target)))) := by
  have hleft : ∀ left right : Candidate,
      (resolver.comparison Criterion.comparison source left right).outcome = .ok .left ↔
        Criterion.ranks resolver.leaves source right.target <
          Criterion.ranks resolver.leaves source left.target := fun left right =>
    (outcome_eq_favouring_iff_of_ranked hranked source left right).trans
      Comparison.side?_preferGreater_eq_left_iff
  refine ⟨fun left right => ⟨hleft left right,
    (outcome_eq_favouring_iff_of_ranked hranked source left right).trans
      Comparison.side?_preferGreater_eq_right_iff⟩, ?_⟩
  have hkey : ∀ left right : Candidate,
      (resolver.comparison Criterion.comparison).verdict source left right = .left ↔
        Criterion.ranks resolver.leaves source right.target <
          Criterion.ranks resolver.leaves source left.target := fun left right =>
    Comparison.verdict_eq_left_iff.trans (hleft left right)
  simpa only [outcome_choose_of_answers fun left _ right _ =>
    answers_of_ranked hranked source left right, Except.ok.injEq, ne_eq] using
      chooseBy_of_key hkey hne

end

def ranked (name : String) (priority : Int) (arity : Nat) : Candidate :=
  (Binding.identity
    { owner := .root, name := name, parameters := List.replicate arity (.primitive .int),
      priority := priority }).candidate

def rankingResolver : Resolver Criterion :=
  .chain [.single .name, .chain [.single .abstain, .chain [], .single .priority], .single .arity]

/-- Of two targets named like the source, with one priority, the one of more parameters wins. -/
theorem choose_greatest_ranks_of_name :
    (∀ criterion ∈ rankingResolver.leaves, criterion.rank?.isSome) ∧
      (choose (rankingResolver.comparison Criterion.comparison) (ranked "run" 1 1).target
        [ranked "go" 9 3, ranked "run" (-2) 2, ranked "run" (-2) 1]).outcome =
          .ok (.ok ⟨1, ranked "run" (-2) 2⟩) := by
  have hranked : ∀ criterion ∈ rankingResolver.leaves, criterion.rank?.isSome := by decide
  have hspec := choose_greatest_ranks hranked (ranked "run" 1 1).target
    (List.cons_ne_nil (ranked "go" 9 3) [ranked "run" (-2) 2, ranked "run" (-2) 1])
  refine ⟨hranked, (hspec.2.1 _).mpr ⟨rfl, fun other rival hne hrival => ?_⟩⟩
  match other, hne, hrival with
  | 0, _, rfl => decide
  | 2, _, rfl => decide

/-- Those that share the greatest ranks are reported in the order of the candidates. -/
example :
    (choose (rankingResolver.comparison Criterion.comparison) (ranked "run" 1 1).target
      [ranked "run" 2 1, ranked "go" 9 3, ranked "run" 2 1, ranked "run" 2 0]).outcome =
        .ok (.error (.ambiguous (ranked "run" 1 1).target
          [(ranked "run" 2 1).target, (ranked "run" 2 1).target])) := rfl

end Resolver

end Delegation
