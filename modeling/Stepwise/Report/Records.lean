import Stepwise.Run.Event

/-!
# Records of steps

What a report keeps of failed and pending steps until the run is finished.
-/

namespace Stepwise

structure FailureRecord where
  description : String
  /-- Where the step stands, relative to the base directory. -/
  location : String
  /-- The error, which may be missing. -/
  message : String
  /-- The output of the definition. -/
  output : Option String
  /-- The position of the scenario of the step among the failed scenarios. A scenario
  is finished after its steps, so this is the number of scenarios that failed before. -/
  scenario : Nat
deriving DecidableEq, Repr

structure PendingRecord where
  description : String
  /-- Where the definition stands, or else the step, relative to the base directory. -/
  location : String
  message : String
deriving DecidableEq, Repr

/-- The record of a failed step; `present` puts errors into words and `scenario` is the
number of scenarios that failed so far. -/
def FailureRecord.ofStep (base : String) (present : StepError → String) (scenario : Nat)
    (event : StepFinished) : FailureRecord where
  description := event.step.description
  location := event.location.relativeText base
  message := (event.result.error?.map present).getD ""
  output := event.result.output?
  scenario := scenario

def PendingRecord.ofStep (base : String) (present : StepError → String)
    (event : StepFinished) : PendingRecord where
  description := event.step.description
  location :=
    match event.result.definition? with
    | some definition => relativize definition.path base
    | none => event.location.relativeText base
  message := (event.result.invocationError?.map present).getD ""

end Stepwise
