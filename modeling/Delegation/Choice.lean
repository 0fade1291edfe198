import Delegation.Comparison

/-!
# Choosing among candidates

A candidate is beaten when the comparison prefers some candidate at another
position, placed on the left, over it.  `choose` asks about the rivals of each
candidate in order and stops at the first that beats it.  The only unbeaten
candidate is chosen, and a single candidate is chosen without asking.
Otherwise the targets of the unbeaten candidates are reported, or all targets
when preferences run in a circle.

`chooseBy` is the same choice for a plain function of two candidates, and
`outcome_choose` says that the two agree wherever the comparison succeeds.
-/

namespace Delegation

inductive ChoiceFault where
  | noCandidates (source : Method)
  | ambiguous (source : Method) (targets : List Method)

structure Choice where
  position : Nat
  candidate : Candidate

namespace ChoiceFault

def alternatives : List String → String
  | [] => ""
  | [only] => only
  | [first, last] => first ++ " or " ++ last
  | first :: others => first ++ ", " ++ alternatives others

def message : ChoiceFault → String
  | .noCandidates source => "no candidate binding for " ++ source.text
  | .ambiguous source targets =>
      "cannot resolve ambiguous delegation of " ++ source.text ++ " to " ++
        alternatives (targets.map Method.text)

end ChoiceFault

namespace Choice

open Inquiry

/-! ## Runs -/

def isBeaten (compare : Candidate → Candidate → Inquiry Verdict) (candidate : Candidate) :
    List Candidate → Inquiry Bool
  | [] => pure false
  | rival :: rivals => do
      if (← compare rival candidate) = .left then pure true
      else isBeaten compare candidate rivals

def keepUnbeaten (compare : Candidate → Candidate → Inquiry Verdict)
    (candidates : List Candidate) : List (Candidate × Nat) → Inquiry (List Choice)
  | [] => pure []
  | (candidate, position) :: others => do
      let beaten ← isBeaten compare candidate (candidates.eraseIdx position)
      let kept ← keepUnbeaten compare candidates others
      pure (if beaten then kept else ⟨position, candidate⟩ :: kept)

def settle (source : Method) (candidates : List Candidate) :
    List Choice → Except ChoiceFault Choice
  | [] => .error (.ambiguous source (candidates.map Candidate.target))
  | [only] => .ok only
  | several => .error (.ambiguous source (several.map fun choice => choice.candidate.target))

end Choice

def choose (comparison : Comparison) (source : Method) :
    List Candidate → Inquiry (Except ChoiceFault Choice)
  | [] => pure (.error (.noCandidates source))
  | [only] => pure (.ok ⟨0, only⟩)
  | candidates => do
      let unbeaten ← Choice.keepUnbeaten (comparison source) candidates candidates.zipIdx
      Inquiry.log (.candidatesWeighed source candidates.length unbeaten.length)
      pure (Choice.settle source candidates unbeaten)

/-! ## The choice without a run -/

namespace Choice

def beatenBy (verdict : Candidate → Candidate → Verdict) (candidate : Candidate)
    (rivals : List Candidate) : Bool :=
  rivals.any fun rival => verdict rival candidate == .left

def unbeaten (verdict : Candidate → Candidate → Verdict) (candidates : List Candidate) :
    List Choice :=
  candidates.zipIdx.filterMap fun (candidate, position) =>
    if beatenBy verdict candidate (candidates.eraseIdx position) then none
    else some ⟨position, candidate⟩

end Choice

def chooseBy (verdict : Method → Candidate → Candidate → Verdict) (source : Method) :
    List Candidate → Except ChoiceFault Choice
  | [] => .error (.noCandidates source)
  | [only] => .ok ⟨0, only⟩
  | candidates => Choice.settle source candidates (Choice.unbeaten (verdict source) candidates)

/-! ## Agreement -/

open Inquiry Choice

theorem outcome_isBeaten {compare : Candidate → Candidate → Inquiry Verdict}
    {verdict : Candidate → Candidate → Verdict} (candidate : Candidate)
    (rivals : List Candidate)
    (h : ∀ rival ∈ rivals, (compare rival candidate).outcome = .ok (verdict rival candidate)) :
    (isBeaten compare candidate rivals).outcome = .ok (beatenBy verdict candidate rivals) := by
  induction rivals with
  | nil => rfl
  | cons rival rivals ih =>
      have hrival := h rival (by simp)
      have hrivals := ih fun other hother => h other (by simp [hother])
      rw [isBeaten, bind_eq_of_ok hrival]
      by_cases hleft : verdict rival candidate = .left
      · simp [beatenBy, hleft]
      · simpa [beatenBy, hleft, beq_false_of_ne hleft] using hrivals

theorem outcome_keepUnbeaten {compare : Candidate → Candidate → Inquiry Verdict}
    {verdict : Candidate → Candidate → Verdict} {candidates : List Candidate}
    (h : ∀ left ∈ candidates, ∀ right ∈ candidates,
      (compare left right).outcome = .ok (verdict left right))
    (others : List (Candidate × Nat)) (hothers : ∀ other ∈ others, other.1 ∈ candidates) :
    (keepUnbeaten compare candidates others).outcome =
      .ok (others.filterMap fun (candidate, position) =>
        if beatenBy verdict candidate (candidates.eraseIdx position) then none
        else some ⟨position, candidate⟩) := by
  induction others with
  | nil => rfl
  | cons other others ih =>
      obtain ⟨candidate, position⟩ := other
      have hbeaten := outcome_isBeaten candidate (candidates.eraseIdx position)
        fun rival hrival => h rival (List.mem_of_mem_eraseIdx hrival) candidate
          (hothers (candidate, position) (by simp))
      have hrest := ih fun other hother => hothers other (by simp [hother])
      rw [keepUnbeaten, bind_eq_of_ok hbeaten]
      simp only [bind_eq_of_ok hrest, outcome_pure, List.filterMap_cons]
      cases beatenBy verdict candidate (candidates.eraseIdx position) <;> rfl

theorem outcome_choose {comparison : Comparison}
    {verdict : Method → Candidate → Candidate → Verdict} {source : Method}
    {candidates : List Candidate}
    (h : ∀ left ∈ candidates, ∀ right ∈ candidates,
      (comparison source left right).outcome = .ok (verdict source left right)) :
    (choose comparison source candidates).outcome = .ok (chooseBy verdict source candidates) := by
  match candidates, h with
  | [], _ => rfl
  | [only], _ => rfl
  | first :: second :: rest, h =>
      have hkept := outcome_keepUnbeaten h (first :: second :: rest).zipIdx
        fun other hother => List.fst_mem_of_mem_zipIdx hother
      rw [choose, bind_eq_of_ok hkept]
      · rfl
      · simp
      · simp

end Delegation
