import Delegation.Resolver

/-!
# Settings

Settings list the strategies of a chain by their keys, in the order in which
they are asked, and perhaps a side that breaks ties.  Without settings all
five strategies are asked in their standard order and ties stay.
-/

namespace Delegation

inductive Strategy where
  | priority
  | owner
  | argumentTypes
  | name
  | arity
  deriving DecidableEq, Repr

namespace Strategy

def all : List Strategy := [.priority, .owner, .argumentTypes, .name, .arity]

def key : Strategy → String
  | .priority => "binding-priority"
  | .owner => "declaring-type"
  | .argumentTypes => "argument-type"
  | .name => "method-name"
  | .arity => "parameter-length"

def criterion : Strategy → Criterion
  | .priority => .priority
  | .owner => .owner
  | .argumentTypes => .argumentTypes
  | .name => .name
  | .arity => .arity

end Strategy

structure Settings where
  strategies : List Strategy := Strategy.all
  tieBreaker : Option Side := none
  deriving DecidableEq, Repr

namespace Settings

def criteria (settings : Settings) : List Criterion :=
  settings.strategies.map Strategy.criterion ++ settings.tieBreaker.toList.map .favour

/-- The strategies are added one by one, and the side that breaks ties last. -/
def chain (settings : Settings) : Chain Criterion :=
  let listed := settings.strategies.foldl
    (fun chain strategy => chain.add (.single strategy.criterion)) {}
  match settings.tieBreaker with
  | some side => listed.add (.single (.favour side))
  | none => listed

theorem chain_eq_ofLeaves (settings : Settings) : settings.chain = .ofLeaves settings.criteria := by
  have hlisted := Chain.foldl_add_single Strategy.criterion [] settings.strategies
  have hempty : Chain.ofLeaves ([] : List Criterion) = {} := rfl
  rw [hempty, List.nil_append] at hlisted
  rw [chain, hlisted, criteria]
  cases settings.tieBreaker with
  | none => rw [Option.toList_none, List.map_nil, List.append_nil]
  | some side => exact Chain.ofLeaves_add_single _ (Criterion.favour side)

/-- The first strategy that is already among those before it. -/
def firstRepeat (before : List Strategy) : List Strategy → Option Strategy
  | [] => none
  | strategy :: strategies =>
      if strategy ∈ before then some strategy
      else firstRepeat (before ++ [strategy]) strategies

def repeated? (settings : Settings) : Option Strategy := firstRepeat [] settings.strategies

/-! ## Written settings -/

def quotedName (name : String) : List Char := '\x22' :: name.toList ++ ['\x22']

def listed : List String → List Char
  | [] => []
  | [only] => quotedName only
  | first :: others => quotedName first ++ ',' :: ' ' :: listed others

def write (settings : Settings) : String :=
  String.ofList ("[ambiguity]\nstrategies = [".toList ++
    listed (settings.strategies.map Strategy.key) ++ "]\n".toList ++
    match settings.tieBreaker with
    | none => []
    | some side => "tie_breaker = ".toList ++ quotedName side.text ++ ['\n'])

end Settings

end Delegation
