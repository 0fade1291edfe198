import Delegation.Proofs.Transcripts
import Delegation.Proofs.Unbeaten

/-!
# The log of a choice

A choice logs the comparisons that it makes, block by block and in the order in
which it makes them, and at last how many candidates are unbeaten.  A chain
logs what its members log, up to the first that decides, and then the pair with
its own verdict.  The comparison of argument types logs every position of the
source, and the verdicts it logs join to its own.  Chains and choices write their
entries for debugging, and positions are traced.
-/

namespace Delegation

/-! ## Entries of runs -/

namespace LogEntry

/-- The source position that the entry is about. -/
def position? : LogEntry → Option Nat
  | .positionSkipped position => some position
  | .positionCompared position _ _ _ => some position
  | _ => none

/-- The verdict on one position. -/
def positionVerdict? : LogEntry → Option Verdict
  | .positionCompared _ _ _ verdict => some verdict
  | _ => none

theorem line_eq (entry : LogEntry) :
    entry.line = match entry with
      | .positionSkipped position =>
          ⟨"TRACE", "parameter not bound on both sides", [("position", .number position)]⟩
      | .positionCompared position left right verdict =>
          ⟨"TRACE", "compared target parameters",
            [("position", .number position), ("left", .text left.text),
              ("right", .text right.text), ("verdict", .text verdict.text)]⟩
      | .pairCompared source left right verdict =>
          ⟨"DEBUG", "resolved candidate pair",
            [("source", .text source.text), ("left", .text left.text),
              ("right", .text right.text), ("resolution", .text verdict.text)]⟩
      | .candidatesWeighed source candidates unbeaten =>
          ⟨"DEBUG", "selected maximal candidates",
            [("source", .text source.text), ("candidates", .number candidates),
              ("maximal", .number unbeaten)]⟩
      | .settingsLoaded path strategies =>
          ⟨"DEBUG", "loaded resolver configuration",
            [("path", .text path), ("strategies", .number strategies)]⟩ := by
  cases entry <;> rfl

end LogEntry

/-- The text of a verdict tells it from every other one. -/
theorem Verdict.eq_of_text_eq {first second : Verdict} (h : first.text = second.text) :
    first = second := by
  revert h
  cases first <;> cases second <;> decide

namespace Inquiry

variable {α : Type}

def entry? : Observation → Option LogEntry
  | .logged entry => some entry
  | _ => none

theorem entries_eq_seen (inquiry : Inquiry α) : inquiry.entries = inquiry.seen entry? := rfl

end Inquiry

open Inquiry

variable {source : Method} {left right : Candidate}

/-! ## Argument types -/

namespace Comparison

def positionEntry (left right : Candidate) (source : ParamType) (position : Nat) : LogEntry :=
  match left.typeAt? position, right.typeAt? position with
  | some leftType, some rightType =>
      .positionCompared position leftType rightType
        (ParamType.compare source leftType rightType)
  | _, _ => .positionSkipped position

/-- The line on a position says whether both candidates route it, and then what was compared. -/
def positionLine (left right : Candidate) (source : ParamType) (position : Nat) : LogLine :=
  match left.typeAt? position, right.typeAt? position with
  | some leftType, some rightType =>
      ⟨"TRACE", "compared target parameters",
        [("position", .number position), ("left", .text leftType.text),
          ("right", .text rightType.text),
          ("verdict", .text (ParamType.compare source leftType rightType).text)]⟩
  | _, _ => ⟨"TRACE", "parameter not bound on both sides", [("position", .number position)]⟩

theorem position?_positionEntry (left right : Candidate) (type : ParamType) (position : Nat) :
    (positionEntry left right type position).position? = some position := by
  unfold positionEntry
  split <;> rfl

theorem line_positionEntry (left right : Candidate) (type : ParamType) (position : Nat) :
    (positionEntry left right type position).line = positionLine left right type position := by
  unfold positionEntry positionLine
  split <;> exact LogEntry.line_eq _

theorem positionVerdict?_positionEntry (left right : Candidate) (type : ParamType)
    (position : Nat) :
    (positionEntry left right type position).positionVerdict? =
      weighPosition left right type position := by
  unfold positionEntry weighPosition
  cases left.typeAt? position with
  | none => rfl
  | some leftType => cases right.typeAt? position <;> rfl

section

variable (hleft : left.InRangeFor source) (hright : right.InRangeFor source)

include hleft hright

theorem entries_comparePosition (type : ParamType) {position : Nat}
    (hposition : position < source.arity) :
    (comparePosition left right type position).entries =
      [positionEntry left right type position] := by
  rw [comparePosition, entries_eq_seen, seen_bind_of_ok rfl, seen_bind_of_ok rfl]
  cases hleftRoute : left.route position with
  | none =>
      have hleftAt : left.typeAt? position = none := by simp [Candidate.typeAt?, hleftRoute]
      rw [positionEntry, hleftAt]
      rfl
  | some leftTarget =>
      obtain ⟨leftType, hleftType, hleftAt⟩ := hleft.typeAt?_eq_some hposition hleftRoute
      cases hrightRoute : right.route position with
      | none =>
          have hrightAt : right.typeAt? position = none := by
            simp [Candidate.typeAt?, hrightRoute]
          rw [positionEntry, hleftAt, hrightAt]
          rfl
      | some rightTarget =>
          obtain ⟨rightType, hrightType, hrightAt⟩ :=
            hright.typeAt?_eq_some hposition hrightRoute
          rw [positionEntry, hleftAt, hrightAt]
          have hleftRead : (parameter left.target leftTarget).outcome = .ok leftType := hleftType
          have hrightRead : (parameter right.target rightTarget).outcome = .ok rightType :=
            hrightType
          rw [seen_bind_of_ok rfl, seen_bind_of_ok hleftRead, seen_bind_of_ok rfl,
            seen_bind_of_ok hrightRead]
          rfl

theorem entries_argumentTypes :
    (argumentTypes source left right).entries =
      source.parameters.zipIdx.map fun (type, position) =>
        positionEntry left right type position := by
  rw [argumentTypes, entries_eq_seen, seen_bind_pure, seen_mapM, upTo_eq_self,
    ← List.flatMap_pure_eq_map]
  · refine List.flatMap_congr fun item hitem => ?_
    exact entries_comparePosition hleft hright item.1 (Method.lt_arity_of_mem_zipIdx hitem)
  · intro item hitem
    rw [missing?, outcome_comparePosition_of_inRangeFor hleft hright item.1
      (Method.lt_arity_of_mem_zipIdx hitem)]
    rfl

/-- An entry for every position of the source in order, with verdicts that join to the answer. -/
theorem log_argumentTypes :
    (argumentTypes source left right).entries.map LogEntry.position? =
      (List.range source.arity).map some ∧
    (argumentTypes source left right).entries.map LogEntry.line =
      (source.parameters.zipIdx.map fun (type, position) =>
        positionLine left right type position) ∧
    (argumentTypes source left right).outcome = .ok (Verdict.joinAll
      ((argumentTypes source left right).entries.filterMap LogEntry.positionVerdict?)) := by
  rw [entries_argumentTypes hleft hright]
  refine ⟨?_, ?_, ?_⟩
  · simp only [List.map_map, ← source.map_snd_zipIdx_parameters]
    exact List.map_congr_left fun item _ => position?_positionEntry left right item.1 item.2
  · rw [List.map_map]
    exact List.map_congr_left fun item _ => line_positionEntry left right item.1 item.2
  · rw [outcome_argumentTypes_of_inRangeFor hleft hright, sharedVerdicts, List.filterMap_map]
    refine congrArg _ (congrArg _ (List.filterMap_congr fun item _ => ?_))
    exact (positionVerdict?_positionEntry left right item.1 item.2).symm

end

end Comparison

/-! ## Chains -/

namespace Resolver

variable {Leaf : Type} {interpret : Leaf → Comparison}

/-- Members after the first that decides log nothing, and the chain itself logs last. -/
theorem entries_chain {members : List (Resolver Leaf)}
    (h : ∀ member ∈ members, (member.comparison interpret).Answers source left right)
    {verdict : Verdict} (hverdict :
      ((Resolver.chain members).comparison interpret source left right).outcome = .ok verdict) :
    ((Resolver.chain members).comparison interpret source left right).entries =
      ((upTo (fun member =>
          ((member.comparison interpret).verdict source left right).isDecided)
        members).flatMap fun member => (member.comparison interpret source left right).entries) ++
        [.pairCompared source left.target right.target verdict] := by
  have hturn : (Comparison.askInTurn source left right .unknown
      (members.map (Resolver.comparison interpret))).outcome = .ok verdict := by
    rw [comparison, comparisons_eq_map, Comparison.outcome_inOrder] at hverdict
    rw [Comparison.outcome_askInTurn, hverdict]
  rw [comparison, comparisons_eq_map, Comparison.inOrder, entries_eq_seen, seen_bind_of_ok hturn,
    Comparison.seen_askInTurn rfl, upTo_map, List.flatMap_map]
  refine congrArg₂ _ (congrArg _ (upTo_congr fun member hmember => ?_)) rfl
  rw [(h member (mem_of_mem_upTo hmember)).outcome_eq, Comparison.stops]

end Resolver

/-! ## Choices -/

namespace Choice

variable {compare : Candidate → Candidate → Inquiry Verdict}
  {verdict : Candidate → Candidate → Verdict}

theorem entries_isBeaten {candidate : Candidate} {rivals : List Candidate}
    (h : ∀ rival ∈ rivals, (compare rival candidate).outcome = .ok (verdict rival candidate)) :
    (isBeaten compare candidate rivals).entries =
      (upTo (fun rival => verdict rival candidate == .left) rivals).flatMap fun rival =>
        (compare rival candidate).entries := by
  induction rivals with
  | nil => rfl
  | cons rival rivals ih =>
      have hrivals := ih fun other hother => h other (List.mem_cons_of_mem rival hother)
      rw [isBeaten, entries_eq_seen, seen_bind_of_ok (h rival (by simp)), upTo_cons,
        List.flatMap_cons]
      by_cases hleft : verdict rival candidate = .left
      · rw [if_pos hleft, if_pos (beq_iff_eq.mpr hleft)]
        rfl
      · rw [if_neg hleft, if_neg (mt beq_iff_eq.mp hleft), ← hrivals]
        rfl

theorem entries_keepUnbeaten {candidates : List Candidate}
    (h : ∀ left ∈ candidates, ∀ right ∈ candidates,
      (compare left right).outcome = .ok (verdict left right))
    (others : List (Candidate × Nat)) (hothers : ∀ other ∈ others, other.1 ∈ candidates) :
    (keepUnbeaten compare candidates others).entries =
      others.flatMap fun (candidate, position) =>
        (upTo (fun rival => verdict rival candidate == .left)
          (candidates.eraseIdx position)).flatMap fun rival =>
            (compare rival candidate).entries := by
  induction others with
  | nil => rfl
  | cons other others ih =>
      obtain ⟨candidate, position⟩ := other
      have hcandidate := hothers (candidate, position) (by simp)
      have hrivals : ∀ rival ∈ candidates.eraseIdx position,
          (compare rival candidate).outcome = .ok (verdict rival candidate) :=
        fun rival hrival => h rival (List.mem_of_mem_eraseIdx hrival) candidate hcandidate
      have hrest := ih fun other hother => hothers other (List.mem_cons_of_mem _ hother)
      rw [keepUnbeaten, entries_eq_seen, seen_bind_of_ok (outcome_isBeaten candidate _ hrivals),
        seen_bind_pure, ← entries_eq_seen, ← entries_eq_seen, entries_isBeaten hrivals, hrest,
        List.flatMap_cons]

end Choice

open Choice

theorem entries_choose_of_length_lt {candidates : List Candidate} (h : candidates.length < 2)
    (comparison : Comparison) (source : Method) :
    (choose comparison source candidates).entries = [] := by
  match candidates, h with
  | [], _ => rfl
  | [only], _ => rfl

theorem entries_choose {comparison : Comparison} {candidates : List Candidate}
    (h : ∀ left ∈ candidates, ∀ right ∈ candidates, comparison.Answers source left right)
    (htwo : 2 ≤ candidates.length) :
    (choose comparison source candidates).entries =
      (candidates.zipIdx.flatMap fun (candidate, position) =>
        (upTo (fun rival => comparison.verdict source rival candidate == .left)
          (candidates.eraseIdx position)).flatMap fun rival =>
            (comparison source rival candidate).entries) ++
        [.candidatesWeighed source candidates.length
          (unbeatenPositions (comparison.verdict source) candidates).length] := by
  have hmembers : ∀ item ∈ candidates.zipIdx, item.1 ∈ candidates :=
    fun item hitem => List.fst_mem_of_mem_zipIdx hitem
  have houtcomes : ∀ left ∈ candidates, ∀ right ∈ candidates,
      (comparison source left right).outcome = .ok (comparison.verdict source left right) :=
    fun left hleft right hright => (h left hleft right hright).outcome_eq
  have hkept := outcome_keepUnbeaten houtcomes candidates.zipIdx hmembers
  have hlog := entries_keepUnbeaten houtcomes candidates.zipIdx hmembers
  rw [← length_unbeaten, ← hlog]
  match candidates, htwo with
  | first :: second :: others, _ =>
      rw [choose, entries_eq_seen, seen_bind_of_ok hkept]
      · rfl
      · simp
      · simp

namespace Chain

variable {Leaf : Type} {interpret : Leaf → Comparison}

/--
A choice logs its comparisons, those of each candidate with its rivals in order until one beats
it, and then the number of unbeaten candidates.  In a comparison the argument types log every
position and a verdict on some that join to their answer, a chain logs its members up to the first
that decides and then the pair with its verdict, and nothing else is logged.  The lines of these
entries are given word for word.
-/
theorem log_choose (hanswers : ∀ leaf, (interpret leaf).AnswersInRange) (chain : Chain Leaf)
    (source : Method) {candidates : List Candidate}
    (hrange : ∀ candidate ∈ candidates, candidate.InRange) :
    (candidates.length < 2 →
      (choose (chain.resolver.comparison interpret) source candidates).entries = []) ∧
    (2 ≤ candidates.length →
      (choose (chain.resolver.comparison interpret) source candidates).entries =
        (candidates.zipIdx.flatMap fun (candidate, position) =>
          (upTo (fun rival =>
              (chain.resolver.comparison interpret).verdict source rival candidate == .left)
            (candidates.eraseIdx position)).flatMap fun rival =>
              (chain.resolver.comparison interpret source rival candidate).entries) ++
          [.candidatesWeighed source candidates.length
            (unbeatenPositions ((chain.resolver.comparison interpret).verdict source)
              candidates).length]) ∧
    (∀ unbeaten, (LogEntry.candidatesWeighed source candidates.length unbeaten).line =
      ⟨"DEBUG", "selected maximal candidates",
        [("source", .text source.text), ("candidates", .number candidates.length),
          ("maximal", .number unbeaten)]⟩) ∧
    ∀ left ∈ candidates, ∀ right ∈ candidates,
      ((Comparison.argumentTypes source left right).entries.map LogEntry.position? =
          (List.range source.arity).map some ∧
        (Comparison.argumentTypes source left right).entries.map LogEntry.line =
          (source.parameters.zipIdx.map fun (type, position) =>
            Comparison.positionLine left right type position) ∧
        (Comparison.argumentTypes source left right).outcome = .ok (Verdict.joinAll
          ((Comparison.argumentTypes source left right).entries.filterMap
            LogEntry.positionVerdict?))) ∧
      (∀ criterion : Criterion, criterion ≠ .argumentTypes →
        (criterion.comparison source left right).entries = []) ∧
      ∀ members : List (Resolver Leaf), ∃ verdict,
        ((Resolver.chain members).comparison interpret source left right).outcome =
          .ok verdict ∧
        ((Resolver.chain members).comparison interpret source left right).entries =
          ((upTo (fun member =>
              ((member.comparison interpret).verdict source left right).isDecided)
            members).flatMap fun member =>
              (member.comparison interpret source left right).entries) ++
            [.pairCompared source left.target right.target verdict] ∧
        (LogEntry.pairCompared source left.target right.target verdict).line =
          ⟨"DEBUG", "resolved candidate pair",
            [("source", .text source.text), ("left", .text left.target.text),
              ("right", .text right.target.text), ("resolution", .text verdict.text)]⟩ ∧
        ∀ other : Verdict, other.text = verdict.text → other = verdict := by
  have hresolver (resolver : Resolver Leaf) : ∀ left ∈ candidates, ∀ right ∈ candidates,
      (resolver.comparison interpret).Answers source left right := by
    intro left hleft right hright
    exact resolver.answers_of_leaves fun leaf _ =>
      hanswers leaf source left right (hrange left hleft) (hrange right hright)
  refine ⟨fun hlt => entries_choose_of_length_lt hlt _ _, entries_choose (hresolver _),
    fun unbeaten => LogEntry.line_eq _, ?_⟩
  intro left hleft right hright
  refine ⟨?_, fun _ hne => Criterion.seen_of_ne_argumentTypes (fun _ => rfl) hne, fun members => ?_⟩
  · exact Comparison.log_argumentTypes ((hrange left hleft).inRangeFor source)
      ((hrange right hright).inRangeFor source)
  · obtain ⟨verdict, hverdict⟩ := hresolver (.chain members) left hleft right hright
    have hentries := Resolver.entries_chain
      (fun member _ => hresolver member left hleft right hright) hverdict
    exact ⟨verdict, hverdict, hentries, LogEntry.line_eq _, fun _ => Verdict.eq_of_text_eq⟩

/-- Every chain inside logs the pair as well, also the one without members. -/
theorem log_choose_nested :
    (choose (nested.resolver.comparison Criterion.comparison) (ofArity 2).target
      [ofArity 1, ofArity 2]).entries =
        [.positionCompared 0 (.primitive .int) (.primitive .int) .ambiguous, .positionSkipped 1,
          .pairCompared (ofArity 2).target (ofArity 2).target (ofArity 1).target .unknown,
          .pairCompared (ofArity 2).target (ofArity 2).target (ofArity 1).target .unknown,
          .pairCompared (ofArity 2).target (ofArity 2).target (ofArity 1).target .left,
          .pairCompared (ofArity 2).target (ofArity 2).target (ofArity 1).target .left,
          .positionCompared 0 (.primitive .int) (.primitive .int) .ambiguous, .positionSkipped 1,
          .pairCompared (ofArity 2).target (ofArity 1).target (ofArity 2).target .unknown,
          .pairCompared (ofArity 2).target (ofArity 1).target (ofArity 2).target .unknown,
          .pairCompared (ofArity 2).target (ofArity 1).target (ofArity 2).target .right,
          .pairCompared (ofArity 2).target (ofArity 1).target (ofArity 2).target .right,
          .candidatesWeighed (ofArity 2).target 2 1] := by
  have hrange : ∀ candidate ∈ [ofArity 1, ofArity 2], candidate.InRange := by
    intro candidate hcandidate
    rw [List.mem_pair] at hcandidate
    rcases hcandidate with rfl | rfl
    · exact Binding.inRange_identity _
    · exact Binding.inRange_identity _
  have hlog := nested.log_choose Criterion.answersInRange (ofArity 2).target hrange
  rw [hlog.2.1 (by decide)]
  rfl

end Chain

end Delegation
