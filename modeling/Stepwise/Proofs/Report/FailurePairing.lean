import Stepwise.Proofs.Report.Isolation

/-!
# Failed steps below their scenarios

A record of a failed step tells how many scenarios had failed before it, and the report
looks its scenario up at that position. Main statement: in a run in which the scenario of
every failed step fails, this finds the scenario of the step itself; a step of which the
scenario never finishes is shown without one.
-/

namespace Stepwise

variable {ω : Type}

/-- The steps of a scenario or an example, and what is told of it once it is finished. A
scenario with a failed step fails. -/
structure ScenarioBlock where
  steps : List StepFinished
  scenario : ScenarioFinished
  /-- Whether it is an example of an outline. -/
  isExample : Bool
  failed_of_step : ∀ step ∈ steps, step.outcome = .failed → scenario.outcome = .failed

/-- The failed ones of some steps. -/
def failedOnes (steps : List StepFinished) : List StepFinished :=
  steps.filter (·.outcome = .failed)

namespace ScenarioBlock

def ending (block : ScenarioBlock) : Event :=
  if block.isExample then .exampleFinished block.scenario else .scenarioFinished block.scenario

def events (block : ScenarioBlock) : List Event :=
  block.steps.map .stepFinished ++ [block.ending]

/-- Where the scenario of a block stands, relative to a directory. -/
def location (base : String) (block : ScenarioBlock) : String :=
  block.scenario.location.relativeText base

def failedLocations (base : String) (blocks : List ScenarioBlock) : List String :=
  (blocks.filter (·.scenario.outcome = .failed)).map (location base)

end ScenarioBlock

namespace Report

/-- The entry of a failed step below a heading, or without one. -/
def entryBelow (styles : Styles) (heading : Option String) (failure : FailureRecord) : String :=
  (match heading with
    | some scenario => "    " ++ styles.outcome .failed scenario ++ "\n"
    | none => "") ++
    "      " ++ styles.outcome .failed failure.description ++ " " ++
    styles.comment ("# " ++ failure.location) ++ "\n" ++
    capturedOutput failure.output ++
    indented styles .failed "        " failure.message ++ "\n"

/-- The heading of an entry is the scenario at the position that the record tells. -/
theorem failureEntry_eq_entryBelow (styles : Styles) (scenarios : List String)
    (failure : FailureRecord) :
    failureEntry styles scenarios failure =
      entryBelow styles scenarios[failure.scenario]? failure := by
  unfold failureEntry scenarioLine entryBelow
  cases scenarios[failure.scenario]? with
  | none => rfl
  | some scenario => rfl

/-- The section of some entries, which is empty without any. -/
def failuresSection (styles : Styles) (catalogue : Catalogue) (entries : List String) : String :=
  if entries.isEmpty then ""
  else title styles .failed (catalogue.message "failed_steps_title") ++ String.join entries

theorem failedSteps_eq_failuresSection (styles : Styles) (catalogue : Catalogue)
    (failures : List FailureRecord) (scenarios : List String) :
    failedSteps styles catalogue failures scenarios =
      failuresSection styles catalogue (failures.map (failureEntry styles scenarios)) := by
  rw [failedSteps, failuresSection, List.isEmpty_map]

end Report

namespace Progress

variable (setup : ProgressSetup ω)

def entryOf (heading : Option String) (step : StepFinished) : String :=
  Report.entryBelow setup.styles heading (FailureRecord.ofStep setup.base setup.present 0 step)

/-- The entries of the failed steps of some blocks, each below its own scenario. -/
def blockEntries (blocks : List ScenarioBlock) : List String :=
  blocks.flatMap fun block =>
    (failedOnes block.steps).map (entryOf setup (some (block.location setup.base)))

def laterSections (progress : Progress ω) : String :=
  Report.pendingSteps setup.styles setup.catalogue progress.pendingSteps ++
    Report.tallyLine setup.styles setup.catalogue "scenarios_count"
      progress.statistics.scenarios ++
    Report.tallyLine setup.styles setup.catalogue "steps_count" progress.statistics.steps ++
    Report.failedTeardowns setup.styles setup.catalogue
      progress.statistics.failedTeardowns ++
    progress.resources setup

theorem summary_eq_append (progress : Progress ω) :
    progress.summary setup =
      Report.failedSteps setup.styles setup.catalogue progress.failedSteps
        progress.failedScenarios ++ progress.laterSections setup := by
  simp only [summary, laterSections, String.append_assoc]

/-- The position in the record of a step only decides on its heading. -/
theorem failureEntry_ofStep (scenarios : List String) (position : Nat) (step : StepFinished) :
    Report.failureEntry setup.styles scenarios
        (FailureRecord.ofStep setup.base setup.present position step) =
      entryOf setup scenarios[position]? step := by
  rw [Report.failureEntry_eq_entryBelow]
  rfl

/-- Steps add the records of the failed ones, all for the same position. -/
theorem foldl_after_steps {progress : Progress ω} (hfinished : progress.finished = false)
    (steps : List StepFinished) :
    let reached := (steps.map Event.stepFinished).foldl (after setup) progress
    reached.finished = false ∧ reached.failedScenarios = progress.failedScenarios ∧
      reached.failedSteps = progress.failedSteps ++
        (failedOnes steps).map
          (FailureRecord.ofStep setup.base setup.present progress.failedScenarios.length) := by
  induction steps generalizing progress with
  | nil => simp [hfinished, failedOnes]
  | cons step rest ih =>
      obtain ⟨output, printed, hafter⟩ := after_stepFinished setup hfinished step
      have hopen : (progress.after setup (.stepFinished step)).finished = false := by
        rw [hafter]
        exact hfinished
      obtain ⟨hunfinished, hscenarios, hsteps⟩ := ih hopen
      refine ⟨hunfinished, ?_, ?_⟩
      · rw [List.map_cons, List.foldl_cons, hscenarios, hafter]
        rfl
      · rw [List.map_cons, List.foldl_cons, hsteps, hafter]
        by_cases hfailed : step.outcome = .failed
        · simp [recordStep, failedOnes, hfailed]
        · simp [recordStep, failedOnes, hfailed]

/-- The end of a block adds its location to those of the failed scenarios, if it failed. -/
theorem after_ending {progress : Progress ω} (hfinished : progress.finished = false)
    (block : ScenarioBlock) :
    (progress.after setup block.ending).finished = false ∧
      (progress.after setup block.ending).failedSteps = progress.failedSteps ∧
      (progress.after setup block.ending).failedScenarios =
        progress.failedScenarios ++ ScenarioBlock.failedLocations setup.base [block] := by
  have hrecord (event : Event) :
      (progress.recordScenario setup event block.scenario).finished = false ∧
        (progress.recordScenario setup event block.scenario).failedSteps =
          progress.failedSteps ∧
        (progress.recordScenario setup event block.scenario).failedScenarios =
          progress.failedScenarios ++ ScenarioBlock.failedLocations setup.base [block] := by
    refine ⟨hfinished, rfl, ?_⟩
    by_cases hfailed : block.scenario.outcome = .failed
    · simp [recordScenario, ScenarioBlock.failedLocations, ScenarioBlock.location, hfailed]
    · simp [recordScenario, ScenarioBlock.failedLocations, hfailed]
  unfold ScenarioBlock.ending
  split
  · rw [after_exampleFinished hfinished]
    exact hrecord _
  · rw [after_scenarioFinished hfinished]
    exact hrecord _

theorem failedLocations_cons (base : String) (block : ScenarioBlock)
    (rest : List ScenarioBlock) :
    ScenarioBlock.failedLocations base (block :: rest) =
      ScenarioBlock.failedLocations base [block] ++ ScenarioBlock.failedLocations base rest := by
  by_cases hfailed : block.scenario.outcome = .failed
  · simp [ScenarioBlock.failedLocations, hfailed]
  · simp [ScenarioBlock.failedLocations, hfailed]

/-- The scenario of a failed step stands where the record of the step points. -/
theorem getElem?_location_of_failed (base : String) (before after : List String)
    {block : ScenarioBlock} {step : StepFinished} (hstep : step ∈ failedOnes block.steps) :
    (before ++ (ScenarioBlock.failedLocations base [block] ++ after))[before.length]? =
      some (block.location base) := by
  have hmem := List.mem_filter.mp hstep
  have hfailed := block.failed_of_step step hmem.1 (by simpa using hmem.2)
  simp [ScenarioBlock.failedLocations, hfailed]

/-- What blocks and the steps behind them leave to be printed, when some scenarios have
failed before. The position of a record is where the location of its own block goes, as
long as the blocks with a failed step fail themselves. -/
theorem entries_foldl_blocks {progress : Progress ω} (hfinished : progress.finished = false)
    (blocks : List ScenarioBlock) (trailing : List StepFinished) :
    let reached := (blocks.flatMap ScenarioBlock.events ++
      trailing.map Event.stepFinished).foldl (after setup) progress
    let scenarios :=
      progress.failedScenarios ++ ScenarioBlock.failedLocations setup.base blocks
    reached.finished = false ∧ reached.failedScenarios = scenarios ∧
      reached.failedSteps.map (Report.failureEntry setup.styles scenarios) =
        progress.failedSteps.map (Report.failureEntry setup.styles scenarios) ++
          blockEntries setup blocks ++ (failedOnes trailing).map (entryOf setup none) := by
  induction blocks generalizing progress with
  | nil =>
      obtain ⟨hunfinished, hscenarios, hsteps⟩ := foldl_after_steps setup hfinished trailing
      refine ⟨hunfinished, ?_, ?_⟩
      · simpa [ScenarioBlock.failedLocations] using hscenarios
      · rw [List.flatMap_nil, List.nil_append, hsteps]
        simp [ScenarioBlock.failedLocations, blockEntries, failureEntry_ofStep,
          Function.comp_def]
  | cons block rest ih =>
      obtain ⟨hunfinished, hscenarios, hsteps⟩ := foldl_after_steps setup hfinished block.steps
      obtain ⟨hunended, hsame, hlocations⟩ := after_ending setup hunfinished block
      rw [hscenarios] at hlocations
      rw [hsteps] at hsame
      obtain ⟨hopen, hreached, hentries⟩ := ih hunended
      rw [hlocations, List.append_assoc] at hreached hentries
      intro reached scenarios
      have hrun : reached = ((rest.flatMap ScenarioBlock.events ++
          trailing.map Event.stepFinished).foldl (after setup)
            (((block.steps.map Event.stepFinished).foldl (after setup) progress).after setup
              block.ending)) := by
        simp [reached, ScenarioBlock.events, List.foldl_append]
      have hsplit : scenarios = progress.failedScenarios ++
          (ScenarioBlock.failedLocations setup.base [block] ++
            ScenarioBlock.failedLocations setup.base rest) := by
        simp only [scenarios, failedLocations_cons setup.base block rest]
      have hown : (failedOnes block.steps).map (Report.failureEntry setup.styles scenarios ∘
          FailureRecord.ofStep setup.base setup.present progress.failedScenarios.length) =
            (failedOnes block.steps).map
              (entryOf setup (some (block.location setup.base))) := by
        apply List.map_congr_left
        intro step hstep
        rw [Function.comp_apply, failureEntry_ofStep, hsplit,
          getElem?_location_of_failed setup.base _ _ hstep]
      refine ⟨hrun ▸ hopen, hrun ▸ hsplit ▸ hreached, ?_⟩
      rw [hrun, hsplit, hentries, hsame, List.map_append, List.map_map, ← hsplit, hown]
      simp [blockEntries]

/-- A run of blocks and of steps whose scenario never finishes is printed with one entry
for each failed step, in their order. The entry of a step in a block stands below the
location of the scenario or the example of that block, and the entry of a step behind the
blocks stands below none. This holds behind all that was reported before. -/
theorem deliverAll_prints_failures (before : Progress ω) (blocks : List ScenarioBlock)
    (trailing : List StepFinished) :
    let run := Event.runStarted ::
      (blocks.flatMap ScenarioBlock.events ++ trailing.map Event.stepFinished)
    let reached := (Dispatcher.deliverAll ⟨subscriptions setup, before⟩ run).subscriber
    let printed :=
      (Dispatcher.deliverAll ⟨subscriptions setup, before⟩ (run ++ [.runFinished])).subscriber
    let failures := Report.failuresSection setup.styles setup.catalogue
      (blockEntries setup blocks ++ (failedOnes trailing).map (entryOf setup none))
    printed.output =
      (setup.sink.writeAllAndFlush
        ((if reached.stepsPrinted % stepsPerLine = 0 then [] else ["\n"]) ++
          ["\n", failures ++ printed.laterSections setup]) reached.output).1 := by
  intro run reached printed failures
  have hreached : reached = (blocks.flatMap ScenarioBlock.events ++
      trailing.map Event.stepFinished).foldl (after setup) (before.after setup .runStarted) :=
    deliverAll_subscriber setup before run
  have hprinted : printed = reached.after setup .runFinished := by
    simp only [printed, reached, deliverAll_subscriber, List.foldl_append, List.foldl_cons,
      List.foldl_nil]
  have hstarted : (before.after setup .runStarted).finished = false := rfl
  obtain ⟨hopen, hscenarios, hentries⟩ :=
    entries_foldl_blocks setup hstarted blocks trailing
  rw [← hreached] at hopen hscenarios hentries
  rw [← hscenarios] at hentries
  have hsection : Report.failedSteps setup.styles setup.catalogue reached.failedSteps
      reached.failedScenarios = failures := by
    rw [Report.failedSteps_eq_failuresSection, hentries]
    rfl
  rw [hprinted, after_runFinished hopen]
  simp only [closingTexts, summary_eq_append, hsection]
  rfl

def stepAt (line : Nat) (outcome : Outcome) : StepFinished where
  file := "a.feature"
  step := ⟨"Then", "it holds", line⟩
  outcome := outcome
  result := .executed ⟨"it holds", "steps:7"⟩
    { error := if outcome = .failed then some (.returned "it does not hold" []) else none }

/-- A scenario in which two steps fail, an example that fails without a failed step, and one more
scenario with a failed step. -/
def failingBlocks : List ScenarioBlock :=
  [{ steps := [stepAt 4 .failed, stepAt 5 .passed, stepAt 6 .failed]
     scenario := { file := "a.feature", title := "Twice", line := 3, outcome := .failed }
     isExample := false
     failed_of_step := fun _ _ _ => rfl },
   { steps := [stepAt 9 .undefined]
     scenario := { file := "a.feature", title := "Never", line := 8, outcome := .failed }
     isExample := true
     failed_of_step := by decide },
   { steps := [stepAt 12 .failed]
     scenario := { file := "a.feature", title := "Once", line := 11, outcome := .failed }
     isExample := false
     failed_of_step := fun _ _ _ => rfl }]

def printedEntry (heading : String) (line : Nat) : String :=
  heading ++ "      Then it holds # a.feature:" ++ toString line ++
    "\n        it does not hold\n\n"

theorem deliverAll_prints_failures_twice :
    let run := Event.runStarted ::
      (failingBlocks.flatMap ScenarioBlock.events ++ [.stepFinished (stepAt 15 .failed)])
    let printed := (Dispatcher.deliverAll (dispatcher quietSetup "")
      (run ++ [.runFinished])).subscriber
    (failingBlocks.flatMap (·.steps)).map (·.outcome) =
        [.failed, .passed, .failed, .undefined, .failed] ∧
      ∃ front back, printed.output =
        front ++ ("--- Failed steps:\n\n" ++
          (printedEntry "    a.feature:3\n" 4 ++ printedEntry "    a.feature:3\n" 6 ++
            printedEntry "    a.feature:11\n" 12 ++ printedEntry "" 15)) ++ back := by
  intro run printed
  have hsection : Report.failuresSection quietSetup.styles quietSetup.catalogue
      (blockEntries quietSetup failingBlocks ++
        (failedOnes [stepAt 15 .failed]).map (entryOf quietSetup none)) =
      "--- Failed steps:\n\n" ++
        (printedEntry "    a.feature:3\n" 4 ++ printedEntry "    a.feature:3\n" 6 ++
          printedEntry "    a.feature:11\n" 12 ++ printedEntry "" 15) := by
    decide +kernel
  have hprinted : printed.output = _ := deliverAll_prints_failures quietSetup { output := "" }
    failingBlocks [stepAt 15 .failed]
  have hcollected := (Sink.appends_collecting.writeAllAndFlush _ _).2.symm.trans hprinted.symm
  rw [String.join_append, hsection] at hcollected
  have hjoin (front gap entries back : String) :
      front ++ (gap ++ String.join ["\n", entries ++ back]) =
        (front ++ gap ++ "\n") ++ entries ++ back := by
    simp [String.join_cons, String.append_assoc]
  exact ⟨rfl, _, _, hcollected.symm.trans (hjoin _ _ _ _)⟩

end Progress

end Stepwise
