import Stepwise.Run.Location
import Stepwise.Run.Outcome
import Stepwise.Run.StepError

/-!
# Events of a run

What happens while a test run is executed, as it is told to those who report it.
-/

namespace Stepwise

/-- Whether the cleanup after a step or a scenario succeeded. -/
inductive Teardown
  | successful
  | failed
deriving DecidableEq, Repr

def Teardown.isSuccessful : Teardown → Bool
  | successful => true
  | failed => false

/-- A step as it is declared in a feature file. -/
structure Step where
  keyword : String
  text : String
  line : Nat
deriving DecidableEq, Repr

def Step.description (step : Step) : String :=
  step.keyword ++ " " ++ step.text

/-- A step definition: its pattern and where it is written. -/
structure Definition where
  pattern : String
  path : String
deriving DecidableEq, Repr

/-- What came of invoking a definition: its error and its output, if any. -/
structure Invocation where
  error : Option StepError := none
  output : Option String := none
deriving DecidableEq, Repr

/-- What happened to a step. -/
inductive StepResult
  /-- No definition matches. -/
  | undefined
  /-- No definition could be selected. -/
  | searchFailed (error : StepError)
  /-- The step was not executed, maybe despite of a definition. -/
  | skipped (definition : Option Definition)
  /-- A definition was invoked. -/
  | executed (definition : Definition) (invocation : Invocation)
deriving DecidableEq, Repr

namespace StepResult

def searchError? : StepResult → Option StepError
  | searchFailed error => some error
  | _ => none

def invocation? : StepResult → Option Invocation
  | executed _ invocation => some invocation
  | _ => none

def definition? : StepResult → Option Definition
  | executed definition _ => some definition
  | skipped definition => definition
  | _ => none

def invocationError? (result : StepResult) : Option StepError :=
  result.invocation?.bind (·.error)

def error? (result : StepResult) : Option StepError :=
  result.searchError?.or result.invocationError?

def output? (result : StepResult) : Option String :=
  if result.searchError?.isSome then none
  else result.invocation?.bind (·.output)

end StepResult

structure StepFinished where
  file : String
  step : Step
  outcome : Outcome
  result : StepResult
  teardown : Option Teardown := none
deriving DecidableEq, Repr

def StepFinished.location (event : StepFinished) : Location :=
  ⟨event.file, event.step.line⟩

/-- A scenario, or an example row of a scenario outline, was finished. -/
structure ScenarioFinished where
  file : String
  title : String
  line : Nat
  outcome : Outcome
  teardown : Option Teardown := none
deriving DecidableEq, Repr

/-- The location of a finished scenario or example. -/
def ScenarioFinished.location (event : ScenarioFinished) : Location :=
  ⟨event.file, event.line⟩

inductive Event
  | runStarted
  | runFinished
  | scenarioFinished (scenario : ScenarioFinished)
  | exampleFinished (example_ : ScenarioFinished)
  | stepFinished (step : StepFinished)
deriving DecidableEq, Repr

inductive EventKind
  | runStarted
  | runFinished
  | scenarioFinished
  | exampleFinished
  | stepFinished
deriving DecidableEq, Repr

namespace EventKind

def all : List EventKind :=
  [runStarted, runFinished, scenarioFinished, exampleFinished, stepFinished]

def name : EventKind → String
  | runStarted => "run-started"
  | runFinished => "run-finished"
  | scenarioFinished => "scenario-finished"
  | exampleFinished => "example-finished"
  | stepFinished => "step-finished"

/-- The name of a kind in the description of a subscription. -/
def label : EventKind → String
  | runStarted => "RunStarted"
  | runFinished => "RunFinished"
  | scenarioFinished => "ScenarioFinished"
  | exampleFinished => "ExampleFinished"
  | stepFinished => "StepFinished"

end EventKind

namespace Event

def kind : Event → EventKind
  | runStarted => .runStarted
  | runFinished => .runFinished
  | scenarioFinished _ => .scenarioFinished
  | exampleFinished _ => .exampleFinished
  | stepFinished _ => .stepFinished

def outcome? : Event → Option Outcome
  | runStarted => none
  | runFinished => none
  | scenarioFinished scenario => some scenario.outcome
  | exampleFinished scenario => some scenario.outcome
  | stepFinished step => some step.outcome

def teardown? : Event → Option Teardown
  | runStarted => none
  | runFinished => none
  | scenarioFinished scenario => scenario.teardown
  | exampleFinished scenario => scenario.teardown
  | stepFinished step => step.teardown

def location? : Event → Option Location
  | runStarted => none
  | runFinished => none
  | scenarioFinished scenario => some scenario.location
  | exampleFinished scenario => some scenario.location
  | stepFinished step => some step.location

def hasFailedTeardown (event : Event) : Bool :=
  event.teardown?.any (!·.isSuccessful)

end Event

end Stepwise
