import Delegation.Binding
import Delegation.Log

/-!
# Inquiries

A comparison asks candidates for routes, reads their targets and writes to
the log.  An `Inquiry` is one such run: the trail of everything it did, in
order, and the value it arrived at, unless a target lacked a parameter that
was asked for.  Runs compose by appending their trails, and a run that fails
keeps the trail up to its failure.
-/

namespace Delegation

inductive Observation where
  | asked (side : Side) (position : Nat) (answer : Option Nat)
  | readTarget (side : Side)
  | logged (entry : LogEntry)

structure Inquiry (α : Type) where
  trail : List Observation
  outcome : Except MissingParameter α

namespace Inquiry

variable {α β : Type}

def succeed (value : α) : Inquiry α := ⟨[], .ok value⟩

def andThen (first : Inquiry α) (next : α → Inquiry β) : Inquiry β :=
  match first.outcome with
  | .error missing => ⟨first.trail, .error missing⟩
  | .ok value =>
      let rest := next value
      ⟨first.trail ++ rest.trail, rest.outcome⟩

instance : Monad Inquiry where
  pure := succeed
  bind := andThen

@[simp] theorem trail_pure (value : α) : (pure value : Inquiry α).trail = [] := rfl

@[simp] theorem outcome_pure (value : α) : (pure value : Inquiry α).outcome = .ok value := rfl

theorem bind_eq_of_ok {first : Inquiry α} {value : α} (h : first.outcome = .ok value)
    (next : α → Inquiry β) :
    first >>= next = ⟨first.trail ++ (next value).trail, (next value).outcome⟩ := by
  change andThen first next = _
  rw [andThen, h]

theorem bind_eq_of_error {first : Inquiry α} {missing : MissingParameter}
    (h : first.outcome = .error missing) (next : α → Inquiry β) :
    first >>= next = ⟨first.trail, .error missing⟩ := by
  change andThen first next = _
  rw [andThen, h]

instance : LawfulMonad Inquiry := LawfulMonad.mk' Inquiry
  (by
    rintro α ⟨trail, outcome⟩
    change andThen _ _ = _
    cases outcome <;> simp [andThen, succeed])
  (by
    intro α β value next
    rw [bind_eq_of_ok (outcome_pure value)]
    rfl)
  (by
    rintro α β γ ⟨trail, outcome⟩ second third
    change andThen (andThen _ _) _ = andThen _ fun value => andThen _ _
    cases outcome with
    | error missing => rfl
    | ok value =>
        simp only [andThen]
        cases (second value).outcome <;> simp)

/-! ## What a run may do -/

def ask (side : Side) (candidate : Candidate) (position : Nat) : Inquiry (Option Nat) :=
  let answer := candidate.route position
  ⟨[.asked side position answer], .ok answer⟩

def readTarget (side : Side) (candidate : Candidate) : Inquiry Method :=
  ⟨[.readTarget side], .ok candidate.target⟩

def parameter (method : Method) (position : Nat) : Inquiry ParamType :=
  ⟨[], method.parameter position⟩

def log (entry : LogEntry) : Inquiry Unit := ⟨[.logged entry], .ok ()⟩

/-! ## Views of a run -/

def askedOf (inquiry : Inquiry α) (side : Side) : List (Nat × Option Nat) :=
  inquiry.trail.filterMap fun
    | .asked asked position answer => if asked = side then some (position, answer) else none
    | _ => none

def readsTarget (inquiry : Inquiry α) (side : Side) : Bool :=
  inquiry.trail.any fun
    | .readTarget read => read == side
    | _ => false

def entries (inquiry : Inquiry α) : List LogEntry :=
  inquiry.trail.filterMap fun
    | .logged entry => some entry
    | _ => none

end Inquiry

end Delegation
