import Stepwise.Delivery.Dispatcher
import Stepwise.Report.Options
import Stepwise.Report.Sections
import Stepwise.Report.Sink
import Stepwise.Report.Stopwatch

/-!
# Progress reports

A progress report prints a character for each step as it is finished, seventy in a line,
and the sections of the report when the run is finished. A new run starts a new report.
-/

namespace Stepwise

def stepsPerLine : Nat := 70

/-- What a progress report is set up with. -/
structure ProgressSetup (ω : Type) where
  sink : Sink ω
  styles : Styles := .usual
  catalogue : Catalogue := .english
  /-- Puts errors of steps into words. -/
  present : StepError → String := StepError.present false
  /-- The directory that paths are shown relative to. -/
  base : String := ""
  /-- Whether time and memory are told in the end. -/
  showsTimer : Bool := true
  /-- Puts the measured time into words. -/
  timeText : Stopwatch → String := Stopwatch.text
  /-- The memory that was needed. -/
  memoryText : String := ""

def ProgressSetup.ofOptions {ω : Type} (sink : Sink ω) (options : Options) :
    ProgressSetup ω where
  sink := sink
  styles := Styles.ofColoring options.coloring
  present := StepError.present (0 < options.verbosity)
  base := options.base.getD ""
  showsTimer := !options.hidesTimer

/-- A progress report. -/
structure Progress (ω : Type) where
  output : ω
  timer : Stopwatch := {}
  /-- Whether the sections were printed, after which events are ignored. -/
  finished : Bool := false
  statistics : Statistics := {}
  /-- The number of characters printed for steps. -/
  stepsPrinted : Nat := 0
  /-- Where the failed scenarios stand, relative to the base directory. -/
  failedScenarios : List String := []
  failedSteps : List FailureRecord := []
  pendingSteps : List PendingRecord := []
deriving DecidableEq, Repr

namespace Progress

variable {ω : Type}

/-- Starts a new report behind the output of the others. -/
def startRun : Handler (Progress ω) :=
  fun progress _ =>
    { subscriber := { output := progress.output, timer := progress.timer.start }
      log := [.runStarted] }

def countTeardown (event : Event) (statistics : Statistics) : Statistics :=
  if event.hasFailedTeardown then
    { statistics with failedTeardowns := statistics.failedTeardowns + 1 }
  else statistics

/-- Counts a scenario, and keeps where it stands if it failed. -/
def recordScenario (setup : ProgressSetup ω) (progress : Progress ω) (event : Event)
    (scenario : ScenarioFinished) : Progress ω :=
  { progress with
    statistics := countTeardown event
      { progress.statistics with
        scenarios := progress.statistics.scenarios.record scenario.outcome }
    failedScenarios :=
      if scenario.outcome = .failed then
        progress.failedScenarios ++ [scenario.location.relativeText setup.base]
      else progress.failedScenarios }

def collectScenario (setup : ProgressSetup ω) : Handler (Progress ω) :=
  fun progress event =>
    if progress.finished then { subscriber := progress, log := [.lateEvent event.kind] }
    else
      match event with
      | .scenarioFinished scenario | .exampleFinished scenario =>
          { subscriber := progress.recordScenario setup event scenario }
      | _ => { subscriber := progress }

def recordStep (setup : ProgressSetup ω) (progress : Progress ω) (event : Event)
    (step : StepFinished) : Progress ω :=
  { progress with
    statistics := countTeardown event
      { progress.statistics with
        steps := progress.statistics.steps.record step.outcome }
    failedSteps :=
      if step.outcome = .failed then
        progress.failedSteps ++
          [FailureRecord.ofStep setup.base setup.present progress.failedScenarios.length step]
      else progress.failedSteps
    pendingSteps :=
      if step.outcome = .pending then
        progress.pendingSteps ++ [PendingRecord.ofStep setup.base setup.present step]
      else progress.pendingSteps }

/-- What follows a character for a step. A full line ends with the number of steps. -/
def lineEnd (stepsPrinted : Nat) : List String :=
  if stepsPrinted % stepsPerLine = 0 then [" " ++ toString stepsPrinted, "\n"] else []

/-- Prints the character of an outcome. The character counts as soon as it is written,
whatever happens to the end of its line. -/
def printGlyph (setup : ProgressSetup ω) (progress : Progress ω) (outcome : Outcome) :
    Handled (Progress ω) :=
  match setup.sink.write progress.output
      (setup.styles.outcome outcome outcome.glyph.toString) with
  | (output, some failure) =>
      { subscriber := { progress with output := output }, failure := some failure }
  | (output, none) =>
      let printed := progress.stepsPrinted + 1
      let (output, failure) := setup.sink.writeAllAndFlush (lineEnd printed) output
      { subscriber := { progress with output := output, stepsPrinted := printed }
        failure := failure }

/-- Counts the step that an event tells of and prints its character. -/
def printStep (setup : ProgressSetup ω) : Handler (Progress ω) :=
  fun progress event =>
    if progress.finished then { subscriber := progress, log := [.lateEvent event.kind] }
    else
      match event with
      | .stepFinished step =>
          (progress.recordStep setup event step).printGlyph setup step.outcome
      | _ => { subscriber := progress }

def resources (setup : ProgressSetup ω) (progress : Progress ω) : String :=
  if setup.showsTimer then
    setup.timeText progress.timer ++ " (" ++ setup.memoryText ++ ")\n"
  else ""

def summary (setup : ProgressSetup ω) (progress : Progress ω) : String :=
  Report.failedSteps setup.styles setup.catalogue progress.failedSteps
      progress.failedScenarios ++
    Report.pendingSteps setup.styles setup.catalogue progress.pendingSteps ++
    Report.tallyLine setup.styles setup.catalogue "scenarios_count"
      progress.statistics.scenarios ++
    Report.tallyLine setup.styles setup.catalogue "steps_count" progress.statistics.steps ++
    Report.failedTeardowns setup.styles setup.catalogue
      progress.statistics.failedTeardowns ++
    progress.resources setup

/-- What is written when a run is finished: the sections behind an empty line. -/
def closingTexts (setup : ProgressSetup ω) (progress : Progress ω) : List String :=
  (if progress.stepsPrinted % stepsPerLine = 0 then [] else ["\n"]) ++
    ["\n", progress.summary setup]

/-- Ends a report. It is finished even if the sections cannot be written. -/
def finishRun (setup : ProgressSetup ω) : Handler (Progress ω) :=
  fun progress _ =>
    if progress.finished then { subscriber := progress, log := [.summaryNotRepeated] }
    else
      let ended := { progress with finished := true, timer := progress.timer.stop }
      let (output, failure) :=
        setup.sink.writeAllAndFlush (ended.closingTexts setup) ended.output
      { subscriber := { ended with output := output }
        failure := failure
        log :=
          [.printingSummary ended.statistics.steps.total ended.statistics.scenarios.total
            ended.statistics.hasFailed] }

def subscriptions (setup : ProgressSetup ω) : List (Subscription (Handler (Progress ω))) :=
  [⟨.runStarted, 999, startRun⟩,
    ⟨.runFinished, -50, finishRun setup⟩,
    ⟨.scenarioFinished, 999, collectScenario setup⟩,
    ⟨.exampleFinished, 999, collectScenario setup⟩,
    ⟨.stepFinished, -50, printStep setup⟩]

def dispatcher (setup : ProgressSetup ω) (output : ω) : Dispatcher (Progress ω) where
  subscriptions := subscriptions setup
  subscriber := { output := output }

end Progress

end Stepwise
