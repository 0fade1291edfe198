import Delegation.Settings.Basic
import Delegation.Toml.Document
import Delegation.Text.Escaped

/-!
# Reading settings

Settings stand under the key `ambiguity` of a document, as a table or as an
array of its two values.  A missing value has its default, other keys count
for nothing, and a strategy that is listed twice is refused only after
everything else is accepted.
-/

namespace Delegation

open Toml

inductive Misfit where
  | unknownName (name : String) (known : List String)
  | wrongShape (found wanted : String)
  | unclear
  deriving DecidableEq, Repr

namespace Misfit

def ticked (name : String) : String := "`" ++ name ++ "`"

def choices : List String → String
  | [first, second] => ticked first ++ " or " ++ ticked second
  | known => "one of " ++ ", ".intercalate (known.map ticked)

def message? : Misfit → Option String
  | .unknownName name known =>
      some ("unknown variant " ++ ticked name ++ ", expected " ++ choices known)
  | .wrongShape found wanted => some ("invalid type: " ++ found ++ ", expected " ++ wanted)
  | .unclear => none

def shape : Value → String
  | .text content => "string " ++ Text.escaped content
  | .integer value => "integer " ++ ticked (toString value)
  | .float value => "floating point " ++ ticked value.text
  | .boolean value => "boolean " ++ ticked (toString value)
  | .moment _ => "map"
  | .array _ => "sequence"
  | .table _ => "map"

end Misfit

/-! ## Values -/

def named {α : Type} (known : List (String × α)) (name : String) : Except Misfit α :=
  match known.lookup name with
  | some meaning => .ok meaning
  | none => .error (.unknownName name (known.map Prod.fst))

def isEmptyValue : Value → Bool
  | .array items => items.isEmpty
  | .table entries => entries.isEmpty
  | _ => false

/-- A name is written as a string or as the only key of a table, over nothing. -/
def readName {α : Type} (known : List (String × α)) : Value → Except Misfit α
  | .text name => named known name
  | .table [(name, content)] => do
      let meaning ← named known name
      if isEmptyValue content then .ok meaning else .error .unclear
  | _ => .error .unclear

def strategyNames : List (String × Strategy) :=
  Strategy.all.map fun strategy => (strategy.key, strategy)

def sideNames : List (String × Side) := [Side.left, Side.right].map fun side => (side.text, side)

def readStrategies : Value → Except Misfit (List Strategy)
  | .array items => items.mapM (readName strategyNames)
  | other => .error (.wrongShape (Misfit.shape other) "a sequence")

def readTieBreaker (value : Value) : Except Misfit (Option Side) :=
  (readName sideNames value).map some

def orDefault {α : Type} (default : α) (read : Value → Except Misfit α) :
    Option Value → Except Misfit α
  | none => .ok default
  | some value => read value

/-! ## Settings -/

def strategiesKey : String := "strategies"

def tieBreakerKey : String := "tie_breaker"

/-- Of two values that do not fit, the one written first is reported. -/
def settingsOfTable (entries : Table) : Except Misfit Settings :=
  let strategies := orDefault Strategy.all readStrategies (entries.lookup strategiesKey)
  let tieBreaker := orDefault none readTieBreaker (entries.lookup tieBreakerKey)
  let tieBreakerFirst :=
    (entries.find? fun entry => entry.1 == strategiesKey || entry.1 == tieBreakerKey).any
      (·.1 == tieBreakerKey)
  match strategies, tieBreaker with
  | .ok strategies, .ok tieBreaker => .ok { strategies, tieBreaker }
  | .ok _, .error misfit => .error misfit
  | .error misfit, .ok _ => .error misfit
  | .error first, .error second => .error (if tieBreakerFirst then second else first)

def settingsOfItems (items : List Value) : Except Misfit Settings := do
  let strategies ← orDefault Strategy.all readStrategies items[0]?
  let tieBreaker ← orDefault none readTieBreaker items[1]?
  .ok { strategies, tieBreaker }

/-- A moment counts as a table without any of the keys. -/
def settingsOfValue : Value → Except Misfit Settings
  | .table entries => settingsOfTable entries
  | .array items => settingsOfItems items
  | .moment _ => .ok {}
  | other => .error (.wrongShape (Misfit.shape other) "struct AmbiguityConfig")

def settingsOfDocument (document : Table) : Except Misfit Settings :=
  orDefault {} settingsOfValue (document.lookup "ambiguity")

inductive SettingsFault where
  | unreadable (path reason : String)
  | malformed
  | misfit (misfit : Misfit)
  | repeatedStrategy (strategy : Strategy)
  deriving DecidableEq, Repr

def SettingsFault.message? : SettingsFault → Option String
  | .unreadable path reason => some ("failed to read " ++ path ++ ": " ++ reason)
  | .malformed => none
  | .misfit reason => reason.message?
  | .repeatedStrategy strategy =>
      some ("strategy " ++ Misfit.ticked strategy.key ++ " listed more than once")

/-- Reads settings from a text, which the given reader reads as a document. -/
def Settings.readBy (parse : String → Option Table) (text : String) :
    Except SettingsFault Settings :=
  match parse text with
  | none => .error .malformed
  | some document =>
      match settingsOfDocument document with
      | .error misfit => .error (.misfit misfit)
      | .ok settings =>
          match settings.repeated? with
          | some strategy => .error (.repeatedStrategy strategy)
          | none => .ok settings

def Settings.read : String → Except SettingsFault Settings := Settings.readBy Toml.parse

end Delegation
