import Mathlib.Data.List.DropRight
import Mathlib.Data.List.Induction
import Stepwise.Report.Progress

/-!
# What a report keeps of the current run

The current run are the events behind the last start of a run, up to the end that
follows it. Main statement: whatever was delivered before, and whatever became of the
output, the counters and the records of a progress report are those of the current run.
-/

namespace Stepwise

variable {σ ω : Type}

/-- Delivers events one after the other, whatever their results are. -/
def Dispatcher.deliverAll (dispatcher : Dispatcher σ) (events : List Event) : Dispatcher σ :=
  events.foldl (fun reached event => (reached.deliver event).receiver) dispatcher

/-- The events behind the last start of a run; all events if no run was started. -/
def sinceStart (events : List Event) : List Event :=
  events.rtakeWhile (· ≠ .runStarted)

/-- The events of the current run: those since it was started, up to its end. -/
def currentRun (events : List Event) : List Event :=
  (sinceStart events).takeWhile (· ≠ .runFinished)

/-- Whether the current run was finished. -/
def currentRunEnded (events : List Event) : Bool :=
  (sinceStart events).contains .runFinished

namespace Event

/-- The outcome of a step, if the event tells of one. -/
def stepOutcome? : Event → Option Outcome
  | stepFinished step => some step.outcome
  | _ => none

/-- The outcome of a scenario or an example, if the event tells of one. -/
def scenarioOutcome? : Event → Option Outcome
  | scenarioFinished scenario => some scenario.outcome
  | exampleFinished scenario => some scenario.outcome
  | _ => none

/-- Whether an event tells of a failed scenario or a failed example. -/
def isFailedScenario (event : Event) : Bool :=
  event.scenarioOutcome? = some .failed

/-- Where a failed scenario or example stands, relative to a directory. -/
def failedScenario? (base : String) : Event → Option String
  | scenarioFinished scenario | exampleFinished scenario =>
      if scenario.outcome = .failed then
        some (relativize scenario.file base ++ ":" ++ toString scenario.line)
      else none
  | _ => none

/-- The step that an event tells of, if it has an outcome. -/
def stepWith? (outcome : Outcome) : Event → Option StepFinished
  | stepFinished step => if step.outcome = outcome then some step else none
  | _ => none

/-- Whether the step, the scenario or the example of an event was not cleaned up. -/
def wasNotCleanedUp : Event → Bool
  | stepFinished step => step.teardown = some .failed
  | scenarioFinished scenario | exampleFinished scenario => scenario.teardown = some .failed
  | _ => false

theorem hasFailedTeardown_eq (event : Event) : event.hasFailedTeardown = event.wasNotCleanedUp := by
  have hnot (teardown : Option Teardown) :
      teardown.any (!·.isSuccessful) = decide (teardown = some .failed) := by
    cases teardown with
    | none => rfl
    | some teardown => cases teardown <;> rfl
  cases event with
  | runStarted => rfl
  | runFinished => rfl
  | scenarioFinished scenario => exact hnot scenario.teardown
  | exampleFinished scenario => exact hnot scenario.teardown
  | stepFinished step => exact hnot step.teardown

end Event

/-- The fields of the record of a failed step. A step whose definition was not found has an error,
too, but nothing was printed for it. -/
theorem FailureRecord.ofStep_eq (base : String) (present : StepError → String) (scenario : Nat)
    (step : StepFinished) :
    FailureRecord.ofStep base present scenario step =
      { description := step.step.keyword ++ " " ++ step.step.text
        location := relativize step.file base ++ ":" ++ toString step.step.line
        message :=
          match step.result with
          | .searchFailed error => present error
          | .executed _ ⟨some error, _⟩ => present error
          | _ => ""
        output :=
          match step.result with
          | .executed _ ⟨_, output⟩ => output
          | _ => none
        scenario := scenario } := by
  obtain ⟨file, written, outcome, result, teardown⟩ := step
  cases result with
  | undefined => rfl
  | searchFailed error => rfl
  | skipped definition => rfl
  | executed definition invocation =>
      obtain ⟨error, output⟩ := invocation
      cases error <;> rfl

/-- The fields of the record of a pending step. -/
theorem PendingRecord.ofStep_eq (base : String) (present : StepError → String)
    (step : StepFinished) :
    PendingRecord.ofStep base present step =
      { description := step.step.keyword ++ " " ++ step.step.text
        location :=
          match step.result with
          | .executed definition _ | .skipped (some definition) => relativize definition.path base
          | _ => relativize step.file base ++ ":" ++ toString step.step.line
        message :=
          match step.result with
          | .executed _ ⟨some error, _⟩ => present error
          | _ => "" } := by
  obtain ⟨file, written, outcome, result, teardown⟩ := step
  cases result with
  | undefined => rfl
  | searchFailed error => rfl
  | skipped definition => cases definition <;> rfl
  | executed definition invocation =>
      obtain ⟨error, output⟩ := invocation
      cases error <;> rfl

/-- The records of the failed steps among some events. The record of a step has the
number of failed scenarios and examples before the step. -/
def failureRecords (base : String) (present : StepError → String) (events : List Event) :
    List FailureRecord :=
  events.zipIdx.filterMap fun (event, i) =>
    (event.stepWith? .failed).map
      (FailureRecord.ofStep base present ((events.take i).countP Event.isFailedScenario))

/-- The records of the pending steps among some events. -/
def pendingRecords (base : String) (present : StepError → String) (events : List Event) :
    List PendingRecord :=
  (events.filterMap (Event.stepWith? .pending)).map (PendingRecord.ofStep base present)

theorem sinceStart_concat (events : List Event) (event : Event) :
    sinceStart (events ++ [event]) =
      if event = .runStarted then [] else sinceStart events ++ [event] := by
  rw [sinceStart, List.rtakeWhile_concat]
  by_cases hstart : event = .runStarted
  · simp [hstart]
  · simp [hstart, sinceStart]

theorem mem_sinceStart_of_ended {events : List Event} (hended : currentRunEnded events = true) :
    .runFinished ∈ sinceStart events := by
  rwa [currentRunEnded, List.contains_iff_mem] at hended

theorem currentRunEnded_concat (events : List Event) {event : Event}
    (hstart : event ≠ .runStarted) :
    currentRunEnded (events ++ [event]) =
      (currentRunEnded events || event == .runFinished) := by
  rw [currentRunEnded, sinceStart_concat, if_neg hstart, currentRunEnded]
  rw [Bool.eq_iff_iff, Bool.or_eq_true, List.contains_iff_mem, List.contains_iff_mem,
    List.mem_append, List.mem_singleton, beq_iff_eq, eq_comm (a := event)]

theorem currentRun_concat_runStarted (events : List Event) :
    currentRun (events ++ [.runStarted]) = [] := by
  rw [currentRun, sinceStart_concat, if_pos rfl, List.takeWhile_nil]

/-- Behind the end of the current run nothing belongs to it. -/
theorem currentRun_concat_of_ended {events : List Event} {event : Event}
    (hstart : event ≠ .runStarted) (hended : currentRunEnded events = true) :
    currentRun (events ++ [event]) = currentRun events := by
  rw [currentRun, sinceStart_concat, if_neg hstart, List.takeWhile_append, if_neg]
  · rfl
  · intro hlength
    have hall := (List.takeWhile_prefix _).eq_of_length hlength
    rw [List.takeWhile_eq_self_iff] at hall
    simpa using hall _ (mem_sinceStart_of_ended hended)

/-- Up to its end the current run takes in every event. -/
theorem currentRun_concat_of_not_ended {events : List Event} {event : Event}
    (hstart : event ≠ .runStarted) (hended : currentRunEnded events = false) :
    currentRun (events ++ [event]) =
      currentRun events ++ if event = .runFinished then [] else [event] := by
  have hall : ∀ e ∈ sinceStart events, decide (e ≠ .runFinished) = true := by
    intro e hmem
    have hne : e ≠ .runFinished := by
      rintro rfl
      rw [currentRunEnded, List.contains_iff_mem.mpr hmem] at hended
      exact absurd hended (by simp)
    exact decide_eq_true hne
  rw [currentRun, sinceStart_concat, if_neg hstart, List.takeWhile_append_of_pos hall,
    currentRun, List.takeWhile_eq_self_iff.mpr hall]
  by_cases hfinish : event = .runFinished
  · simp [hfinish]
  · simp [hfinish]

theorem failureRecords_concat (base : String) (present : StepError → String)
    (events : List Event) (event : Event) :
    failureRecords base present (events ++ [event]) =
      failureRecords base present events ++
        ((event.stepWith? .failed).map
          (FailureRecord.ofStep base present (events.countP Event.isFailedScenario))).toList := by
  rw [failureRecords, List.zipIdx_append, List.filterMap_append, failureRecords]
  congr 1
  · apply List.filterMap_congr
    rintro ⟨earlier, i⟩ hmem
    have hlt : i < events.length := (List.mem_zipIdx' hmem).1
    simp only [List.take_append_of_le_length (Nat.le_of_lt hlt)]
  · cases hstep : event.stepWith? .failed with
    | none => simp [hstep]
    | some step => simp [hstep]

theorem pendingRecords_concat (base : String) (present : StepError → String)
    (events : List Event) (event : Event) :
    pendingRecords base present (events ++ [event]) =
      pendingRecords base present events ++
        ((event.stepWith? .pending).map (PendingRecord.ofStep base present)).toList := by
  rw [pendingRecords, List.filterMap_append, List.map_append, pendingRecords]
  cases hstep : event.stepWith? .pending with
  | none => simp [hstep]
  | some step => simp [hstep]

namespace Progress

def handler (setup : ProgressSetup ω) : EventKind → Handler (Progress ω)
  | .runStarted => startRun
  | .runFinished => finishRun setup
  | .scenarioFinished => collectScenario setup
  | .exampleFinished => collectScenario setup
  | .stepFinished => printStep setup

/-- A report after an event, whatever became of the output. -/
def after (setup : ProgressSetup ω) (progress : Progress ω) (event : Event) : Progress ω :=
  (handler setup event.kind progress event).subscriber

/-- Every kind of event has one handler. -/
theorem arranged_subscriptions (setup : ProgressSetup ω) (kind : EventKind) :
    (Subscription.arranged (subscriptions setup) kind).map (·.handler) =
      [handler setup kind] := by
  cases kind <;> simp [Subscription.arranged, subscriptions, handler]

theorem deliver_subscriber (setup : ProgressSetup ω) (progress : Progress ω) (event : Event) :
    (Dispatcher.deliver ⟨subscriptions setup, progress⟩ event).receiver =
      ⟨subscriptions setup, progress.after setup event⟩ := by
  rw [Dispatcher.deliver, Dispatcher.handlers, arranged_subscriptions, after]
  simp only [deliverTo, runHandlers]
  split <;> rfl

/-- The events that are delivered are handled one after the other. -/
theorem deliverAll_eq (setup : ProgressSetup ω) (progress : Progress ω) (events : List Event) :
    Dispatcher.deliverAll ⟨subscriptions setup, progress⟩ events =
      ⟨subscriptions setup, events.foldl (after setup) progress⟩ := by
  induction events generalizing progress with
  | nil => rfl
  | cons event rest ih =>
      rw [List.foldl_cons, ← ih, ← deliver_subscriber]
      rfl

theorem deliverAll_subscriber (setup : ProgressSetup ω) (progress : Progress ω)
    (events : List Event) :
    (Dispatcher.deliverAll ⟨subscriptions setup, progress⟩ events).subscriber =
      events.foldl (after setup) progress :=
  congrArg Dispatcher.subscriber (deliverAll_eq setup progress events)

/-- Printing a glyph leaves everything but the output and the number of glyphs alone. -/
theorem printGlyph_subscriber (setup : ProgressSetup ω) (progress : Progress ω)
    (outcome : Outcome) :
    ∃ output printed, (progress.printGlyph setup outcome).subscriber =
      { progress with output := output, stepsPrinted := printed } := by
  unfold printGlyph
  split
  · exact ⟨_, progress.stepsPrinted, rfl⟩
  · exact ⟨_, _, rfl⟩

/-- A finished report changes with the start of a new run only. -/
theorem after_of_finished {setup : ProgressSetup ω} {progress : Progress ω} {event : Event}
    (hfinished : progress.finished = true) (hstart : event ≠ .runStarted) :
    progress.after setup event = progress := by
  cases event with
  | runStarted => exact absurd rfl hstart
  | runFinished => simp [after, handler, Event.kind, finishRun, hfinished]
  | scenarioFinished scenario => simp [after, handler, Event.kind, collectScenario, hfinished]
  | exampleFinished scenario => simp [after, handler, Event.kind, collectScenario, hfinished]
  | stepFinished step => simp [after, handler, Event.kind, printStep, hfinished]

theorem foldl_after_of_finished {setup : ProgressSetup ω} {progress : Progress ω}
    {events : List Event} (hfinished : progress.finished = true)
    (hevents : Event.runStarted ∉ events) : events.foldl (after setup) progress = progress := by
  induction events with
  | nil => rfl
  | cons event rest ih =>
      rw [List.mem_cons, not_or] at hevents
      rw [List.foldl_cons, after_of_finished hfinished (Ne.symm hevents.1), ih hevents.2]

theorem after_runFinished {setup : ProgressSetup ω} {progress : Progress ω}
    (hfinished : progress.finished = false) :
    progress.after setup .runFinished =
      { progress with
        finished := true
        timer := progress.timer.stop
        output :=
          (setup.sink.writeAllAndFlush
            (closingTexts setup { progress with finished := true, timer := progress.timer.stop })
            progress.output).1 } := by
  simp [after, handler, Event.kind, finishRun, hfinished]

theorem finished_after_runFinished (setup : ProgressSetup ω) (progress : Progress ω) :
    (progress.after setup .runFinished).finished = true := by
  cases hfinished : progress.finished with
  | true => rw [after_of_finished hfinished (by simp), hfinished]
  | false => rw [after_runFinished hfinished]

theorem after_scenarioFinished {setup : ProgressSetup ω} {progress : Progress ω}
    (hfinished : progress.finished = false) (scenario : ScenarioFinished) :
    progress.after setup (.scenarioFinished scenario) =
      progress.recordScenario setup (.scenarioFinished scenario) scenario := by
  simp [after, handler, Event.kind, collectScenario, hfinished]

theorem after_exampleFinished {setup : ProgressSetup ω} {progress : Progress ω}
    (hfinished : progress.finished = false) (scenario : ScenarioFinished) :
    progress.after setup (.exampleFinished scenario) =
      progress.recordScenario setup (.exampleFinished scenario) scenario := by
  simp [after, handler, Event.kind, collectScenario, hfinished]

theorem after_stepFinished (setup : ProgressSetup ω) {progress : Progress ω}
    (hfinished : progress.finished = false) (step : StepFinished) :
    ∃ output printed, progress.after setup (.stepFinished step) =
      { progress.recordStep setup (.stepFinished step) step with
        output := output, stepsPrinted := printed } := by
  have hprint := printGlyph_subscriber setup
    (progress.recordStep setup (.stepFinished step) step) step.outcome
  simpa [after, handler, Event.kind, printStep, hfinished] using hprint

/-- What a report keeps is what some events tell. -/
structure Keeps (setup : ProgressSetup ω) (progress : Progress ω) (events : List Event) :
    Prop where
  steps : ∀ outcome, progress.statistics.steps.get outcome =
    events.countP (·.stepOutcome? = some outcome)
  scenarios : ∀ outcome, progress.statistics.scenarios.get outcome =
    events.countP (·.scenarioOutcome? = some outcome)
  failedTeardowns : progress.statistics.failedTeardowns = events.countP Event.hasFailedTeardown
  failedScenarios : progress.failedScenarios = events.filterMap (Event.failedScenario? setup.base)
  failedSteps : progress.failedSteps = failureRecords setup.base setup.present events
  pendingSteps : progress.pendingSteps = pendingRecords setup.base setup.present events

theorem failedTeardowns_countTeardown (event : Event) (statistics : Statistics) :
    (countTeardown event statistics).failedTeardowns =
      statistics.failedTeardowns + if event.hasFailedTeardown then 1 else 0 := by
  unfold countTeardown
  split <;> rfl

@[simp] theorem steps_countTeardown (event : Event) (statistics : Statistics) :
    (countTeardown event statistics).steps = statistics.steps := by
  unfold countTeardown
  split <;> rfl

@[simp] theorem scenarios_countTeardown (event : Event) (statistics : Statistics) :
    (countTeardown event statistics).scenarios = statistics.scenarios := by
  unfold countTeardown
  split <;> rfl

variable {setup : ProgressSetup ω} {progress : Progress ω} {events : List Event}

/-- As many failed scenarios are kept as there are among the events. -/
theorem Keeps.length_failedScenarios (h : Keeps setup progress events) :
    progress.failedScenarios.length = events.countP Event.isFailedScenario := by
  rw [h.failedScenarios, List.length_filterMap_eq_countP]
  apply List.countP_congr
  intro event _
  cases event <;> simp [Event.failedScenario?, Event.isFailedScenario, Event.scenarioOutcome?]

theorem Keeps.of_start (output : ω) (timer : Stopwatch) :
    Keeps setup { output := output, timer := timer } [] where
  steps outcome := by cases outcome <;> rfl
  scenarios outcome := by cases outcome <;> rfl
  failedTeardowns := rfl
  failedScenarios := rfl
  failedSteps := rfl
  pendingSteps := rfl

theorem Keeps.after_step (h : Keeps setup progress events)
    (hfinished : progress.finished = false) (step : StepFinished) :
    Keeps setup (progress.after setup (.stepFinished step))
      (events ++ [.stepFinished step]) := by
  obtain ⟨output, printed, hafter⟩ := after_stepFinished setup hfinished step
  rw [hafter]
  constructor
  · intro outcome
    simp only [recordStep, steps_countTeardown, Tally.get_record, h.steps,
      List.countP_append]
    simp [Event.stepOutcome?]
  · intro outcome
    simp only [recordStep, scenarios_countTeardown, h.scenarios, List.countP_append]
    simp [Event.scenarioOutcome?]
  · simp only [recordStep, failedTeardowns_countTeardown, h.failedTeardowns,
      List.countP_append]
    simp
  · simp only [recordStep, h.failedScenarios, List.filterMap_append]
    simp [Event.failedScenario?]
  · rw [failureRecords_concat, ← h.failedSteps, ← h.length_failedScenarios]
    by_cases hfailed : step.outcome = .failed
    · simp [recordStep, Event.stepWith?, hfailed]
    · simp [recordStep, Event.stepWith?, hfailed]
  · rw [pendingRecords_concat, ← h.pendingSteps]
    by_cases hpending : step.outcome = .pending
    · simp [recordStep, Event.stepWith?, hpending]
    · simp [recordStep, Event.stepWith?, hpending]

/-- A scenario and an example are kept in the same way. -/
theorem Keeps.recordScenario (h : Keeps setup progress events) (event : Event)
    (scenario : ScenarioFinished)
    (hevent : event = .scenarioFinished scenario ∨ event = .exampleFinished scenario) :
    Keeps setup (progress.recordScenario setup event scenario) (events ++ [event]) := by
  have hstep : event.stepOutcome? = none := by rcases hevent with rfl | rfl <;> rfl
  have hrecord (outcome : Outcome) : event.stepWith? outcome = none := by
    rcases hevent with rfl | rfl <;> rfl
  have hscenario : event.scenarioOutcome? = some scenario.outcome := by
    rcases hevent with rfl | rfl <;> rfl
  have hlocated : event.failedScenario? setup.base =
      if scenario.outcome = .failed then some (scenario.location.relativeText setup.base)
      else none := by
    rcases hevent with rfl | rfl <;> rfl
  constructor
  · intro outcome
    simp only [Progress.recordScenario, steps_countTeardown, h.steps, List.countP_append]
    simp [hstep]
  · intro outcome
    simp only [Progress.recordScenario, scenarios_countTeardown, Tally.get_record, h.scenarios,
      List.countP_append]
    simp [hscenario]
  · simp only [Progress.recordScenario, failedTeardowns_countTeardown, h.failedTeardowns,
      List.countP_append]
    simp
  · by_cases hfailed : scenario.outcome = .failed
    · simp [Progress.recordScenario, h.failedScenarios, hlocated, hfailed]
    · simp [Progress.recordScenario, h.failedScenarios, hlocated, hfailed]
  · rw [failureRecords_concat, hrecord]
    simp [Progress.recordScenario, h.failedSteps]
  · rw [pendingRecords_concat, hrecord]
    simp [Progress.recordScenario, h.pendingSteps]

/-- What one event does to a report that keeps the events of the current run. -/
theorem Keeps.after (h : Keeps setup progress (currentRun events))
    (hfinished : progress.finished = currentRunEnded events) (event : Event) :
    Keeps setup (progress.after setup event) (currentRun (events ++ [event])) ∧
      (progress.after setup event).finished = currentRunEnded (events ++ [event]) := by
  by_cases hstart : event = .runStarted
  · subst hstart
    rw [currentRun_concat_runStarted, currentRunEnded, sinceStart_concat, if_pos rfl]
    exact ⟨Keeps.of_start _ _, rfl⟩
  · rw [currentRunEnded_concat events hstart, ← hfinished]
    cases hended : progress.finished with
    | true =>
        rw [after_of_finished hended hstart,
          currentRun_concat_of_ended hstart (hfinished ▸ hended)]
        exact ⟨h, by simp [hended]⟩
    | false =>
        rw [currentRun_concat_of_not_ended hstart (hfinished ▸ hended)]
        cases event with
        | runStarted => exact absurd rfl hstart
        | runFinished =>
            rw [after_runFinished hended, if_pos rfl, List.append_nil]
            exact ⟨⟨h.steps, h.scenarios, h.failedTeardowns, h.failedScenarios, h.failedSteps,
              h.pendingSteps⟩, rfl⟩
        | scenarioFinished scenario =>
            rw [after_scenarioFinished hended, if_neg (by simp)]
            exact ⟨h.recordScenario _ scenario (Or.inl rfl), hended⟩
        | exampleFinished scenario =>
            rw [after_exampleFinished hended, if_neg (by simp)]
            exact ⟨h.recordScenario _ scenario (Or.inr rfl), hended⟩
        | stepFinished step =>
            rw [if_neg (by simp)]
            refine ⟨h.after_step hended step, ?_⟩
            obtain ⟨output, printed, hafter⟩ := after_stepFinished setup hended step
            rw [hafter]
            exact hended

/-- A new report keeps the current run through every sequence of events. -/
theorem keeps_currentRun (setup : ProgressSetup ω) (output : ω) (events : List Event) :
    Keeps setup (events.foldl (Progress.after setup) { output := output }) (currentRun events) ∧
      (events.foldl (Progress.after setup) { output := output }).finished =
        currentRunEnded events := by
  induction events using List.reverseRecOn with
  | nil => exact ⟨Keeps.of_start output {}, rfl⟩
  | append_singleton events event ih =>
      rw [List.foldl_append, List.foldl_cons, List.foldl_nil]
      exact Keeps.after ih.1 ih.2 event

/-- Whatever is delivered to a new report, and whatever becomes of its output, in the end
its counters and its records are those of the current run, and it is finished exactly if
the current run is. The record of a failed step has the number of scenarios and examples that
failed before the step. -/
theorem deliverAll_keeps_currentRun (setup : ProgressSetup ω) (output : ω)
    (events : List Event) :
    let progress := ((dispatcher setup output).deliverAll events).subscriber
    let run := currentRun events
    (∀ outcome, progress.statistics.steps.get outcome =
      run.countP (·.stepOutcome? = some outcome)) ∧
    (∀ outcome, progress.statistics.scenarios.get outcome =
      run.countP (·.scenarioOutcome? = some outcome)) ∧
    progress.statistics.failedTeardowns = run.countP Event.wasNotCleanedUp ∧
    progress.failedScenarios = run.filterMap (Event.failedScenario? setup.base) ∧
    progress.failedSteps =
      run.zipIdx.filterMap (fun (event, i) => (event.stepWith? .failed).map fun step =>
        { description := step.step.keyword ++ " " ++ step.step.text
          location := relativize step.file setup.base ++ ":" ++ toString step.step.line
          message :=
            match step.result with
            | .searchFailed error => setup.present error
            | .executed _ ⟨some error, _⟩ => setup.present error
            | _ => ""
          output :=
            match step.result with
            | .executed _ ⟨_, output⟩ => output
            | _ => none
          scenario := (run.take i).countP Event.isFailedScenario }) ∧
    progress.pendingSteps =
      (run.filterMap (Event.stepWith? .pending)).map (fun step =>
        { description := step.step.keyword ++ " " ++ step.step.text
          location :=
            match step.result with
            | .executed definition _ | .skipped (some definition) =>
                relativize definition.path setup.base
            | _ => relativize step.file setup.base ++ ":" ++ toString step.step.line
          message :=
            match step.result with
            | .executed _ ⟨some error, _⟩ => setup.present error
            | _ => "" }) ∧
    progress.finished = currentRunEnded events := by
  intro progress run
  have hreached : progress = events.foldl (Progress.after setup) { output := output } :=
    deliverAll_subscriber setup { output := output } events
  obtain ⟨hkeeps, hfinished⟩ := keeps_currentRun setup output events
  rw [← hreached] at hkeeps hfinished
  refine ⟨hkeeps.steps, hkeeps.scenarios, ?_, hkeeps.failedScenarios, ?_, ?_, hfinished⟩
  · rw [hkeeps.failedTeardowns, funext Event.hasFailedTeardown_eq]
  · rw [hkeeps.failedSteps]
    apply List.filterMap_congr
    rintro ⟨event, i⟩ -
    exact congrArg (Option.map · (event.stepWith? .failed)) (funext (FailureRecord.ofStep_eq _ _ _))
  · rw [hkeeps.pendingSteps]
    exact List.map_congr_left fun step _ => PendingRecord.ofStep_eq _ _ step

end Progress

end Stepwise
