import Delegation.Proofs.ArgumentTypes
import Delegation.Proofs.Unbeaten

/-!
# Nesting of chains

A resolver prefers the side that the first of its leaves to prefer one prefers,
however its leaves are nested.  Chains of the same leaves therefore agree on
every decision, and so on every choice.  An undecided verdict is that of the
last member, and a chain without members knows nothing, so empty chains inside
may turn what is ambiguous into what is unknown; nothing else can.
-/

namespace Delegation

namespace Comparison

theorem settleInTurn_singleton {start : Verdict} (h : start.isDecided = false)
    (outcome : Except MissingParameter Verdict) : settleInTurn start [outcome] = outcome := by
  rw [settleInTurn_cons h]
  cases outcome <;> rfl

theorem side?_of_settleInTurn {verdicts : List Verdict} {start last : Verdict}
    (hstart : start.isDecided = false)
    (hlast : settleInTurn start (verdicts.map .ok) = .ok last) :
    last.side? = verdicts.findSome? Verdict.side? := by
  induction verdicts generalizing start with
  | nil =>
      cases hlast
      exact Verdict.side?_eq_none_iff.mpr hstart
  | cons next verdicts ih =>
      rw [List.map_cons, settleInTurn_cons hstart] at hlast
      change settleInTurn next _ = _ at hlast
      rw [List.findSome?_cons]
      cases hside : next.side? with
      | none => exact ih (Verdict.side?_eq_none_iff.mp hside) hlast
      | some side =>
          have hdecided : next.isDecided = true := by
            cases Verdict.side?_eq_some_iff.mp hside
            cases side <;> rfl
          rw [settleInTurn_of_decided hdecided] at hlast
          cases hlast
          exact hside

end Comparison

namespace Resolver

variable {Leaf : Type} {interpret : Leaf → Comparison} {source : Method}
  {left right : Candidate}

/-- The outcomes of the leaves, in the order in which they are asked. -/
def leafOutcomes (interpret : Leaf → Comparison) (source : Method) (left right : Candidate)
    (resolver : Resolver Leaf) : List (Except MissingParameter Verdict) :=
  resolver.leaves.map fun leaf => (interpret leaf source left right).outcome

/--
What is seen of the members' outcomes in turn is seen of their leaves' outcomes in turn, as
long as the view tells a decided verdict from every other one.
-/
theorem settleInTurn_members {α : Type} {view : Verdict → α}
    (hview : ∀ first second, view first = view second →
      first = second ∨ first.isDecided = false ∧ second.isDecided = false)
    (members : List (Resolver Leaf))
    (h : ∀ member ∈ members, ∀ start : Verdict, start.isDecided = false →
      (member.comparison interpret source left right).outcome.map view =
        (Comparison.settleInTurn start
          (member.leafOutcomes interpret source left right)).map view)
    {first second : Verdict} (hstart : view first = view second) :
    (Comparison.settleInTurn first (members.map fun member =>
        (member.comparison interpret source left right).outcome)).map view =
      (Comparison.settleInTurn second
        ((Resolver.chain members).leafOutcomes interpret source left right)).map view := by
  induction members generalizing first second with
  | nil => exact congrArg Except.ok hstart
  | cons member members ih =>
      have hcons : (Resolver.chain (member :: members)).leafOutcomes interpret source left right =
          member.leafOutcomes interpret source left right ++
            (Resolver.chain members).leafOutcomes interpret source left right := by
        simp [leafOutcomes, leaves, leavesOfAll]
      rw [hcons, List.map_cons, Comparison.settleInTurn_append]
      have hdecided : first.isDecided = second.isDecided := by
        rcases hview first second hstart with rfl | ⟨hfirst, hsecond⟩
        · rfl
        · rw [hfirst, hsecond]
      cases hfirst : first.isDecided with
      | true =>
          have hsame : first = second :=
            (hview first second hstart).resolve_right (by simp [hfirst])
          subst hsame
          rw [Comparison.settleInTurn_of_decided hfirst, Comparison.settleInTurn_of_decided hfirst]
          exact congrArg _ (Comparison.settleInTurn_of_decided hfirst _).symm
      | false =>
          have hmember := h member (by simp) second (hdecided ▸ hfirst)
          have hrest := fun other hother => h other (List.mem_cons_of_mem member hother)
          rw [Comparison.settleInTurn_cons hfirst]
          rcases Inquiry.outcomes_of_map_eq hmember with
            ⟨missing, hleft, hright⟩ | ⟨one, two, hleft, hright, hsame⟩
          · rw [hleft, hright]
            rfl
          · rw [hleft, hright]
            exact ih hrest hsame

theorem map_side?_outcome (resolver : Resolver Leaf) {start : Verdict}
    (hstart : start.isDecided = false) :
    (resolver.comparison interpret source left right).outcome.map Verdict.side? =
      (Comparison.settleInTurn start
        (resolver.leafOutcomes interpret source left right)).map Verdict.side? := by
  induction resolver generalizing start with
  | single leaf =>
      rw [leafOutcomes, leaves, List.map_singleton, Comparison.settleInTurn_singleton hstart]
      rfl
  | chain members ih =>
      rw [outcome_chain]
      apply settleInTurn_members fun _ _ => Verdict.eq_or_undecided_of_side?_eq
      · exact fun member hmember start => ih member hmember
      · exact (Verdict.side?_eq_none_iff.mpr hstart).symm

theorem side?_verdict (resolver : Resolver Leaf)
    (h : ∀ leaf ∈ resolver.leaves, (interpret leaf).Answers source left right) :
    ((resolver.comparison interpret).verdict source left right).side? =
      resolver.leaves.findSome? fun leaf => ((interpret leaf).verdict source left right).side? := by
  have hleaves : resolver.leafOutcomes interpret source left right =
      (resolver.leaves.map fun leaf => (interpret leaf).verdict source left right).map .ok := by
    rw [leafOutcomes, List.map_map]
    apply List.map_congr_left
    intro leaf hleaf
    exact (h leaf hleaf).outcome_eq
  have hside : (resolver.comparison interpret source left right).outcome.map Verdict.side? =
      (Comparison.settleInTurn .unknown
        (resolver.leafOutcomes interpret source left right)).map Verdict.side? :=
    resolver.map_side?_outcome rfl
  rw [(resolver.answers_of_leaves h).outcome_eq, hleaves] at hside
  cases hlast : Comparison.settleInTurn .unknown
      ((resolver.leaves.map fun leaf => (interpret leaf).verdict source left right).map .ok) with
  | error missing =>
      rw [hlast] at hside
      cases hside
  | ok last =>
      rw [hlast] at hside
      have hsame := Except.ok.inj hside
      rw [hsame, Comparison.side?_of_settleInTurn rfl hlast, List.findSome?_map]
      rfl

/-! ## Empty chains -/

/-- No chain in the resolver, at whatever depth, is without members. -/
inductive NowhereEmpty : Resolver Leaf → Prop where
  | single (leaf : Leaf) : NowhereEmpty (.single leaf)
  | chain {members : List (Resolver Leaf)} (hne : members ≠ [])
      (hmembers : ∀ member ∈ members, NowhereEmpty member) : NowhereEmpty (.chain members)

theorem NowhereEmpty.leaves_ne_nil {resolver : Resolver Leaf} (h : resolver.NowhereEmpty) :
    resolver.leaves ≠ [] := by
  induction h with
  | single leaf => simp [leaves]
  | @chain members hne _ ih =>
      obtain ⟨member, others, rfl⟩ := List.exists_cons_of_ne_nil hne
      simp [leaves, leavesOfAll, ih member]

theorem outcome_chain_of_members {members : List (Resolver Leaf)}
    (h : ∀ member ∈ members, ∀ start : Verdict, start.isDecided = false →
      (member.comparison interpret source left right).outcome =
        Comparison.settleInTurn start (member.leafOutcomes interpret source left right)) :
    ((Resolver.chain members).comparison interpret source left right).outcome =
      Comparison.settleInTurn .unknown
        ((Resolver.chain members).leafOutcomes interpret source left right) := by
  have hmembers : (Comparison.settleInTurn .unknown (members.map fun member =>
      (member.comparison interpret source left right).outcome)).map id =
      (Comparison.settleInTurn .unknown
        ((Resolver.chain members).leafOutcomes interpret source left right)).map id :=
    settleInTurn_members (fun _ _ => .inl) members
      (fun member hmember start hstart =>
        congrArg (Except.map id) (h member hmember start hstart)) rfl
  rw [outcome_chain]
  simpa only [Except.map_id, id_eq] using hmembers

theorem NowhereEmpty.outcome_eq {resolver : Resolver Leaf} (h : resolver.NowhereEmpty)
    {start : Verdict} (hstart : start.isDecided = false) :
    (resolver.comparison interpret source left right).outcome =
      Comparison.settleInTurn start (resolver.leafOutcomes interpret source left right) := by
  induction h generalizing start with
  | single leaf =>
      rw [leafOutcomes, leaves, List.map_singleton, Comparison.settleInTurn_singleton hstart]
      rfl
  | chain hne hmembers ih =>
      obtain ⟨leaf, others, hleaves⟩ :=
        List.exists_cons_of_ne_nil (NowhereEmpty.chain hne hmembers).leaves_ne_nil
      rw [outcome_chain_of_members fun member hmember _ => ih member hmember, leafOutcomes,
        hleaves, List.map_cons, Comparison.settleInTurn_cons hstart,
        Comparison.settleInTurn_cons (rfl : Verdict.unknown.isDecided = false)]

end Resolver

/-! ## Chains of the same leaves -/

/-- The comparison answers for every two candidates in range. -/
def Comparison.AnswersInRange (comparison : Comparison) : Prop :=
  ∀ source left right, left.InRange → right.InRange → comparison.Answers source left right

theorem Criterion.answersInRange (criterion : Criterion) : criterion.comparison.AnswersInRange :=
  fun source _ _ hleft hright => criterion.answers hleft hright source

namespace Chain

variable {Leaf : Type}

def NowhereEmptyInside (chain : Chain Leaf) : Prop :=
  ∀ member ∈ chain.members, member.NowhereEmpty

theorem NowhereEmptyInside.outcome_eq {interpret : Leaf → Comparison} {chain : Chain Leaf}
    (h : chain.NowhereEmptyInside) (source : Method) (left right : Candidate) :
    (chain.resolver.comparison interpret source left right).outcome =
      Comparison.settleInTurn .unknown
        (chain.resolver.leafOutcomes interpret source left right) :=
  Resolver.outcome_chain_of_members fun member hmember _ => (h member hmember).outcome_eq

/--
Chains of the same leaves prefer the same side, that of the first leaf to prefer one, and give
the same verdict unless one of them has an empty chain inside.
-/
theorem agree_of_same_leaves (interpret : Leaf → Comparison) {first second : Chain Leaf}
    (hleaves : first.resolver.leaves = second.resolver.leaves)
    (hanswers : ∀ leaf ∈ first.resolver.leaves, (interpret leaf).AnswersInRange) :
    (∀ source left right, left.InRange → right.InRange → ∃ firstVerdict secondVerdict,
      (first.resolver.comparison interpret source left right).outcome = .ok firstVerdict ∧
      (second.resolver.comparison interpret source left right).outcome = .ok secondVerdict ∧
      firstVerdict.side? = secondVerdict.side? ∧
      firstVerdict.side? = first.resolver.leaves.findSome? (fun leaf =>
        ((interpret leaf).verdict source left right).side?) ∧
      (first.NowhereEmptyInside → second.NowhereEmptyInside → firstVerdict = secondVerdict)) ∧
    ∀ source candidates,
      (choose (first.resolver.comparison interpret) source candidates).outcome =
        (choose (second.resolver.comparison interpret) source candidates).outcome := by
  have houtcomes : ∀ source left right,
      first.resolver.leafOutcomes interpret source left right =
        second.resolver.leafOutcomes interpret source left right := by
    intro source left right
    rw [Resolver.leafOutcomes, hleaves, Resolver.leafOutcomes]
  have hunknown : Verdict.unknown.isDecided = false := rfl
  have hsides : ∀ source left right,
      (first.resolver.comparison interpret source left right).outcome.map Verdict.side? =
        (second.resolver.comparison interpret source left right).outcome.map Verdict.side? := by
    intro source left right
    rw [first.resolver.map_side?_outcome hunknown, houtcomes,
      ← second.resolver.map_side?_outcome hunknown]
  refine ⟨?_, fun source candidates => outcome_choose_congr fun left _ right _ =>
    hsides source left right⟩
  intro source left right hleft hright
  have hanswer : ∀ leaf ∈ first.resolver.leaves, (interpret leaf).Answers source left right :=
    fun leaf hleaf => hanswers leaf hleaf source left right hleft hright
  have hfirst := (first.resolver.answers_of_leaves hanswer).outcome_eq
  have hsecond := (second.resolver.answers_of_leaves (hleaves ▸ hanswer)).outcome_eq
  refine ⟨_, _, hfirst, hsecond, ?_, first.resolver.side?_verdict hanswer, ?_⟩
  · have hside := hsides source left right
    rw [hfirst, hsecond] at hside
    exact Except.ok.inj hside
  · intro hfull hfull'
    rw [hfull.outcome_eq, houtcomes, ← hfull'.outcome_eq, hsecond] at hfirst
    exact (Except.ok.inj hfirst).symm

def flat : Chain Criterion := ofLeaves [.argumentTypes, .abstain, .arity]

def nested : Chain Criterion :=
  (add ⟨[.single .argumentTypes]⟩ (.chain [.single .abstain, .chain []])).append
    ⟨[.chain [.single .arity]]⟩

theorem agree_of_same_leaves_nested :
    flat.resolver.leaves = nested.resolver.leaves ∧
      (choose (flat.resolver.comparison Criterion.comparison) (ofArity 2).target
          [ofArity 1, ofArity 2]).outcome =
        (choose (nested.resolver.comparison Criterion.comparison) (ofArity 2).target
          [ofArity 1, ofArity 2]).outcome := by
  have hleaves : flat.resolver.leaves = nested.resolver.leaves := rfl
  exact ⟨hleaves, (agree_of_same_leaves Criterion.comparison hleaves
    fun leaf _ => leaf.answersInRange).2 _ _⟩

/-- An empty chain at the end answers for those before it. -/
example :
    ((ofLeaves [Criterion.arity]).resolver.comparison Criterion.comparison (ofArity 1).target
        (ofArity 1) (ofArity 1)).outcome = .ok .ambiguous ∧
      (((ofLeaves [Criterion.arity]).add (.chain [])).resolver.comparison Criterion.comparison
        (ofArity 1).target (ofArity 1) (ofArity 1)).outcome = .ok .unknown :=
  ⟨rfl, rfl⟩

end Chain

end Delegation
