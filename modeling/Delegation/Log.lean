import Delegation.Method

/-!
# The log

What comparisons, choices and the loading of settings report as they run.  An
entry is written as a line of its level, its message and named fields, which are
numbers or texts.
-/

namespace Delegation

inductive LogEntry where
  /-- One of the two candidates leaves the source position unbound. -/
  | positionSkipped (position : Nat)
  | positionCompared (position : Nat) (left right : ParamType) (verdict : Verdict)
  | pairCompared (source left right : Method) (verdict : Verdict)
  | candidatesWeighed (source : Method) (candidates unbeaten : Nat)
  | settingsLoaded (path : String) (strategies : Nat)

inductive LogField where
  | number (value : Nat)
  | text (content : String)

structure LogLine where
  level : String
  message : String
  fields : List (String × LogField)

namespace LogEntry

def level : LogEntry → String
  | .positionSkipped _ => "TRACE"
  | .positionCompared _ _ _ _ => "TRACE"
  | .pairCompared _ _ _ _ => "DEBUG"
  | .candidatesWeighed _ _ _ => "DEBUG"
  | .settingsLoaded _ _ => "DEBUG"

def message : LogEntry → String
  | .positionSkipped _ => "parameter not bound on both sides"
  | .positionCompared _ _ _ _ => "compared target parameters"
  | .pairCompared _ _ _ _ => "resolved candidate pair"
  | .candidatesWeighed _ _ _ => "selected maximal candidates"
  | .settingsLoaded _ _ => "loaded resolver configuration"

def fields : LogEntry → List (String × LogField)
  | .positionSkipped position => [("position", .number position)]
  | .positionCompared position left right verdict =>
      [("position", .number position), ("left", .text left.text),
        ("right", .text right.text), ("verdict", .text verdict.text)]
  | .pairCompared source left right verdict =>
      [("source", .text source.text), ("left", .text left.text),
        ("right", .text right.text), ("resolution", .text verdict.text)]
  | .candidatesWeighed source candidates unbeaten =>
      [("source", .text source.text), ("candidates", .number candidates),
        ("maximal", .number unbeaten)]
  | .settingsLoaded path strategies =>
      [("path", .text path), ("strategies", .number strategies)]

def line (entry : LogEntry) : LogLine := ⟨entry.level, entry.message, entry.fields⟩

end LogEntry

end Delegation
