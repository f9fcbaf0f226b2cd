import Stepwise.Run.Event
import Stepwise.Text.Quoted

/-!
# Log entries

What is logged while patterns are compiled, events are delivered and runs are
reported. An entry is a cause; its wording and its fields are derived from it.
-/

namespace Stepwise

/-- Something worth logging. -/
inductive LogEntry
  | generatingPattern (kind : Option String) (policy : String)
  | uncompilablePattern (source : String)
  | ignoredModifiers (pattern ignored : String)
  | compiledPattern (pattern policy regex : String)
  | noHandlers (kind : EventKind)
  | dispatching (kind : EventKind) (handlers : Nat)
  | rejectedDelivery (kind : EventKind)
  | runStarted
  | lateEvent (kind : EventKind)
  | summaryNotRepeated
  | printingSummary (steps scenarios : Nat) (failed : Bool)
deriving DecidableEq, Repr

/-- How important a log entry is. -/
inductive LogLevel
  | trace
  | debug
  | warn
deriving DecidableEq, Repr

def LogLevel.name : LogLevel → String
  | trace => "TRACE"
  | debug => "DEBUG"
  | warn => "WARN"

namespace LogEntry

def level : LogEntry → LogLevel
  | generatingPattern .. => .trace
  | uncompilablePattern .. => .warn
  | ignoredModifiers .. => .debug
  | compiledPattern .. => .debug
  | noHandlers .. => .trace
  | dispatching .. => .trace
  | rejectedDelivery .. => .warn
  | runStarted => .debug
  | lateEvent .. => .debug
  | summaryNotRepeated => .debug
  | printingSummary .. => .debug

def message : LogEntry → String
  | generatingPattern .. => "generating step pattern"
  | uncompilablePattern .. => "step pattern doesn't compile, it won't match anything"
  | ignoredModifiers .. => "regex modifiers without inline counterpart are ignored"
  | compiledPattern .. => "compiled step pattern"
  | noHandlers .. => "no handlers subscribed"
  | dispatching .. => "dispatching event"
  | rejectedDelivery .. => "re-entrant event delivery rejected"
  | runStarted => "run started, resetting progress"
  | lateEvent .. => "run already finished, event ignored"
  | summaryNotRepeated => "run already finished, summary is not repeated"
  | printingSummary .. => "printing run summary"

/-- The fields of an entry with their texts. -/
def fields : LogEntry → List (String × String)
  | generatingPattern kind policy => [("kind", Text.quotedOption kind), ("policy", policy)]
  | uncompilablePattern source => [("source", source)]
  | ignoredModifiers pattern ignored => [("pattern", pattern), ("ignored", ignored)]
  | compiledPattern pattern policy regex =>
      [("pattern", pattern), ("policy", policy), ("regex", regex)]
  | noHandlers kind => [("kind", kind.name)]
  | dispatching kind handlers => [("kind", kind.name), ("handlers", toString handlers)]
  | rejectedDelivery kind => [("kind", kind.name)]
  | runStarted => []
  | lateEvent kind => [("event", kind.name)]
  | summaryNotRepeated => []
  | printingSummary steps scenarios failed =>
      [("steps", toString steps), ("scenarios", toString scenarios),
        ("failed", if failed then "true" else "false")]

end LogEntry

/-- A value and what was logged while it was found, in order. -/
structure Logged (α : Type) where
  value : α
  log : List LogEntry := []

end Stepwise
