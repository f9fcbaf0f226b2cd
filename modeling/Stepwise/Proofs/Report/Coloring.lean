import Stepwise.Proofs.Report.Isolation
import Stepwise.Proofs.Report.Uncoloring

/-!
# Reports with and without colors

Two reports of the same events that differ in their coloring go the same way. Main statement:
they count and keep the same, and without its escape sequences what the colored one prints is
what the other one prints, as long as none of the texts shown has an escape character.
-/

namespace Stepwise

variable {ω : Type}

/-! The texts of events. -/

/-- The texts of a finished step that a report shows, with its error put into words. -/
def StepFinished.shownTexts (present : StepError → String) (step : StepFinished) : List String :=
  [step.file, step.step.keyword, step.step.text] ++
    (step.result.definition?.map (·.path)).toList ++ step.result.output?.toList ++
      (step.result.error?.map present).toList

/-- The texts of an event that a report shows, with its errors put into words. -/
def Event.shownTexts (present : StepError → String) : Event → List String
  | .runStarted => []
  | .runFinished => []
  | .scenarioFinished scenario => [scenario.file]
  | .exampleFinished scenario => [scenario.file]
  | .stepFinished step => step.shownTexts present

def StepError.texts : StepError → List String
  | .notFound => []
  | .ambiguous step _ => [step]
  | .pending text => [text]
  | .panic payload => payload.toList
  | .returned text causes => text :: causes

theorem StepError.isUncolored_message {error : StepError}
    (h : ∀ text ∈ error.texts, IsUncolored text) : IsUncolored error.message := by
  cases error with
  | notFound =>
      change IsUncolored "Step doesn't match any function"
      decide
  | ambiguous step count =>
      have hstep : IsUncolored step := h step List.mem_cons_self
      change IsUncolored ("Step match is ambiguous: \x60" ++ step ++ "\x60 matches " ++
        toString count ++ " definitions")
      simp only [isUncolored_append]
      exact ⟨⟨⟨⟨by decide, hstep⟩, by decide⟩, isUncolored_toString count⟩, by decide⟩
  | pending text =>
      have htext : IsUncolored text := h text List.mem_cons_self
      change IsUncolored (if text.isEmpty then "TODO: write pending definition" else text)
      split
      · decide
      · exact htext
  | panic payload =>
      change IsUncolored ("Step panicked. Captured output: " ++
        payload.getD "(Could not resolve panic payload)")
      rw [isUncolored_append]
      refine ⟨by decide, ?_⟩
      cases payload with
      | none =>
          rw [Option.getD_none]
          decide
      | some text => exact h text List.mem_cons_self
  | returned text causes => exact h text List.mem_cons_self

/-- Errors without escape characters are put into words without them. -/
theorem StepError.isUncolored_present (verbose : Bool) {error : StepError}
    (h : ∀ text ∈ error.texts, IsUncolored text) : IsUncolored (error.present verbose) := by
  have hmessage := isUncolored_message h
  have hcauses : ∀ cause ∈ error.causes, IsUncolored cause := by
    cases error with
    | returned text causes => exact fun cause hcause => h cause (List.mem_cons_of_mem text hcause)
    | _ => exact fun cause hcause => absurd hcause List.not_mem_nil
  rw [StepError.present]
  split
  · generalize error.message = text at hmessage
    generalize error.causes = causes at hcauses
    induction causes generalizing text with
    | nil => exact hmessage
    | cons cause causes ih =>
        rw [List.forall_mem_cons] at hcauses
        rw [List.foldl_cons]
        refine ih _ ?_ hcauses.2
        simp only [isUncolored_append]
        exact ⟨⟨hmessage, by decide⟩, hcauses.1⟩
  · exact hmessage

/-- A relative path is a part of the path. -/
theorem isUncolored_relativize {path : String} (h : IsUncolored path) (base : String) :
    IsUncolored (relativize path base) := by
  have hsuffix : relativePath path.toList base.toList <:+ path.toList := by
    rw [relativePath]
    split
    · exact List.suffix_refl _
    · split
      · rename_i directory hdirectory rest hstrip
        rw [eq_append_of_stripStart? hstrip]
        exact (List.suffix_cons '/' rest).trans (List.suffix_append _ _)
      · exact List.suffix_refl _
  rw [IsUncolored, relativize, String.toList_ofList]
  exact fun hmem => h (hsuffix.subset hmem)

theorem isUncolored_relativeText {location : Location} (h : IsUncolored location.path)
    (base : String) : IsUncolored (location.relativeText base) := by
  simp only [Location.relativeText, isUncolored_append]
  exact ⟨⟨isUncolored_relativize h base, by decide⟩, isUncolored_toString location.line⟩

/-! The texts that a report keeps. -/

theorem error?_of_invocationError? {result : StepResult} {error : StepError}
    (h : result.invocationError? = some error) : result.error? = some error := by
  cases result with
  | executed definition invocation => exact h
  | undefined => exact absurd h (by simp [StepResult.invocationError?, StepResult.invocation?])
  | searchFailed error =>
      exact absurd h (by simp [StepResult.invocationError?, StepResult.invocation?])
  | skipped definition =>
      exact absurd h (by simp [StepResult.invocationError?, StepResult.invocation?])

variable {base : String} {present : StepError → String} {step : StepFinished}

theorem isUncolored_getD {message : Option String} (h : ∀ text ∈ message, IsUncolored text) :
    IsUncolored (message.getD "") := by
  cases message with
  | none => exact isUncolored_empty
  | some text => exact h text rfl

theorem isUncolored_description (h : ∀ text ∈ step.shownTexts present, IsUncolored text) :
    IsUncolored step.step.description := by
  simp only [Step.description, isUncolored_append]
  exact ⟨⟨h _ (by simp [StepFinished.shownTexts]), by decide⟩,
    h _ (by simp [StepFinished.shownTexts])⟩

theorem isUncolored_of_mem_failureRecord
    (h : ∀ text ∈ step.shownTexts present, IsUncolored text) (scenario : Nat) :
    ∀ text ∈ (FailureRecord.ofStep base present scenario step).texts, IsUncolored text := by
  have hfile : IsUncolored step.location.path :=
    h _ (by simp [StepFinished.shownTexts, StepFinished.location])
  have hmessage : ∀ text ∈ step.result.error?.map present, IsUncolored text := by
    intro text htext
    exact h text (by simp [StepFinished.shownTexts, Option.mem_def.mp htext])
  have houtput : ∀ text ∈ step.result.output?.toList, IsUncolored text := by
    intro text htext
    exact h text (by simp [StepFinished.shownTexts, htext])
  simp only [FailureRecord.texts, FailureRecord.ofStep, List.forall_mem_append,
    List.forall_mem_cons]
  exact ⟨⟨isUncolored_description h, isUncolored_relativeText hfile base,
    isUncolored_getD hmessage, by simp⟩, houtput⟩

theorem isUncolored_of_mem_pendingRecord
    (h : ∀ text ∈ step.shownTexts present, IsUncolored text) :
    ∀ text ∈ (PendingRecord.ofStep base present step).texts, IsUncolored text := by
  have hfile : IsUncolored step.location.path :=
    h _ (by simp [StepFinished.shownTexts, StepFinished.location])
  have hmessage : ∀ text ∈ step.result.invocationError?.map present, IsUncolored text := by
    intro text htext
    obtain ⟨error, herror, rfl⟩ := Option.map_eq_some_iff.mp htext
    exact h _ (by simp [StepFinished.shownTexts, error?_of_invocationError? herror])
  have hlocation : IsUncolored (PendingRecord.ofStep base present step).location := by
    rw [PendingRecord.ofStep]
    dsimp only
    cases hdefinition : step.result.definition? with
    | none => exact isUncolored_relativeText hfile base
    | some definition =>
        have hpath : IsUncolored definition.path :=
          h _ (by simp [StepFinished.shownTexts, hdefinition])
        exact isUncolored_relativize hpath base
  simp only [PendingRecord.texts, List.forall_mem_cons]
  exact ⟨isUncolored_description h, hlocation, isUncolored_getD hmessage, by simp⟩

namespace Progress

def texts (progress : Progress ω) : List String :=
  progress.failedScenarios ++ (progress.failedSteps.flatMap FailureRecord.texts ++
    progress.pendingSteps.flatMap PendingRecord.texts)

variable {setup : ProgressSetup ω} {contents : ω → String} {p q : Progress ω}

theorem isUncolored_texts_recordScenario (h : ∀ text ∈ p.texts, IsUncolored text) (event : Event)
    {scenario : ScenarioFinished} (hfile : IsUncolored scenario.file) :
    ∀ text ∈ (p.recordScenario setup event scenario).texts, IsUncolored text := by
  simp only [texts, recordScenario, List.forall_mem_append] at h ⊢
  refine ⟨?_, h.2⟩
  split
  · have hlocation : IsUncolored (scenario.location.relativeText setup.base) :=
      isUncolored_relativeText hfile setup.base
    exact List.forall_mem_append.mpr ⟨h.1, List.forall_mem_singleton.mpr hlocation⟩
  · exact h.1

theorem isUncolored_texts_recordStep (h : ∀ text ∈ p.texts, IsUncolored text) (event : Event)
    {step : StepFinished} (hstep : ∀ text ∈ step.shownTexts setup.present, IsUncolored text) :
    ∀ text ∈ (p.recordStep setup event step).texts, IsUncolored text := by
  simp only [texts, recordStep, List.forall_mem_append] at h ⊢
  refine ⟨h.1, ?_, ?_⟩
  · split
    · rw [List.flatMap_append, List.forall_mem_append, List.flatMap_singleton]
      exact ⟨h.2.1, isUncolored_of_mem_failureRecord hstep _⟩
    · exact h.2.1
  · split
    · rw [List.flatMap_append, List.forall_mem_append, List.flatMap_singleton]
      exact ⟨h.2.2, isUncolored_of_mem_pendingRecord hstep⟩
    · exact h.2.2

end Progress

/-! Two reports that differ in their coloring. -/

def ProgressSetup.withColoring (setup : ProgressSetup ω) (coloring : Coloring) :
    ProgressSetup ω :=
  { setup with styles := setup.styles.apply coloring }

namespace Progress

variable {setup : ProgressSetup ω} {contents : ω → String} {p q : Progress ω}

theorem uncolors_summary (hcatalogue : setup.catalogue = .english)
    (htimer : setup.showsTimer = false) (htexts : ∀ text ∈ p.texts, IsUncolored text) :
    Uncolors (p.summary (setup.withColoring .always)) (p.summary (setup.withColoring .never)) := by
  simp only [texts, List.forall_mem_append] at htexts
  obtain ⟨hscenarios, hfailures, hpending⟩ := htexts
  have hresources (coloring : Coloring) : p.resources (setup.withColoring coloring) = "" := by
    simp only [resources, ProgressSetup.withColoring, htimer, Bool.false_eq_true, if_false]
  have hscenarioTally := Report.uncolors_tallyLine setup.styles "scenarios_count"
    p.statistics.scenarios (Report.isUncolored_countedNoun _ (by decide))
  have hstepTally := Report.uncolors_tallyLine setup.styles "steps_count"
    p.statistics.steps (Report.isUncolored_countedNoun _ (by decide))
  have hfailure : ∀ failure ∈ p.failedSteps, ∀ text ∈ failure.texts, IsUncolored text :=
    fun failure hmem text htext => hfailures text (List.mem_flatMap.mpr ⟨failure, hmem, htext⟩)
  have hrecord : ∀ pending ∈ p.pendingSteps, ∀ text ∈ pending.texts, IsUncolored text :=
    fun pending hmem text htext => hpending text (List.mem_flatMap.mpr ⟨pending, hmem, htext⟩)
  have hfailedSteps := Report.uncolors_failedSteps setup.styles hscenarios hfailure
  have hpendingSteps := Report.uncolors_pendingSteps setup.styles hrecord
  have hteardowns := Report.uncolors_failedTeardowns setup.styles p.statistics.failedTeardowns
  have hempty : Uncolors "" "" := .of_isUncolored isUncolored_empty
  rw [summary, summary, hresources, hresources]
  simp only [ProgressSetup.withColoring, hcatalogue]
  exact ((((hfailedSteps.append hpendingSteps).append hscenarioTally).append hstepTally).append
    hteardowns).append hempty

theorem uncolors_closingTexts (hcatalogue : setup.catalogue = .english)
    (htimer : setup.showsTimer = false) (halike : p.Alike q)
    (htexts : ∀ text ∈ p.texts, IsUncolored text) :
    Uncolors (String.join (p.closingTexts (setup.withColoring .always)))
      (String.join (q.closingTexts (setup.withColoring .never))) := by
  have hsame : p.closingTexts (setup.withColoring .never) =
      q.closingTexts (setup.withColoring .never) := halike.closingTexts htimer
  have hbreak : Uncolors "\n" "\n" := .of_isUncolored (by decide)
  have hsections := hbreak.append (uncolors_summary hcatalogue htimer htexts)
  rw [← hsame, closingTexts, closingTexts]
  split
  · simpa [String.join_cons] using hsections
  · simpa [String.join_cons] using hbreak.append hsections

/-- A report that is colored and one that is not, which keep the same. None of the texts that
they keep has an escape character. -/
structure ColoredAlike (contents : ω → String) (p q : Progress ω) : Prop where
  alike : p.Alike q
  output : Uncolors (contents p.output) (contents q.output)
  texts : ∀ text ∈ p.texts, IsUncolored text

theorem ColoredAlike.finishRun (h : ColoredAlike contents p q)
    (hsink : setup.sink.Appends contents) (hcatalogue : setup.catalogue = .english)
    (htimer : setup.showsTimer = false) (hfinished : p.finished = false) :
    ColoredAlike contents (p.after (setup.withColoring .always) .runFinished)
      (q.after (setup.withColoring .never) .runFinished) := by
  have hended : Alike { p with finished := true, timer := p.timer.stop }
      { q with finished := true, timer := q.timer.stop } := { h.alike with finished := rfl }
  have htexts := uncolors_closingTexts hcatalogue htimer hended h.texts
  rw [after_runFinished hfinished, after_runFinished (h.alike.finished ▸ hfinished)]
  have hcolored : (setup.withColoring .always).sink.Appends contents := hsink
  have hplain : (setup.withColoring .never).sink.Appends contents := hsink
  refine ⟨{ hended with }, ?_, h.texts⟩
  rw [(hcolored.writeAllAndFlush _ _).2, (hplain.writeAllAndFlush _ _).2]
  exact h.output.append htexts

theorem ColoredAlike.recordScenario (h : ColoredAlike contents p q) (event : Event)
    {scenario : ScenarioFinished} (hfile : IsUncolored scenario.file) :
    ColoredAlike contents (p.recordScenario setup event scenario)
      (q.recordScenario setup event scenario) where
  alike := h.alike.recordScenario setup event scenario
  output := h.output
  texts := isUncolored_texts_recordScenario h.texts event hfile

theorem isUncolored_lineEnd (printed : Nat) : IsUncolored (String.join (lineEnd printed)) := by
  apply isUncolored_join
  rw [lineEnd]
  split
  · have hnumber : IsUncolored (" " ++ toString printed) :=
      isUncolored_append.mpr ⟨by decide, isUncolored_toString printed⟩
    exact List.forall_mem_cons.mpr ⟨hnumber, List.forall_mem_singleton.mpr (by decide)⟩
  · exact fun text htext => absurd htext List.not_mem_nil

theorem ColoredAlike.recordStep (h : ColoredAlike contents p q) (event : Event)
    {step : StepFinished} (hstep : ∀ text ∈ step.shownTexts setup.present, IsUncolored text) :
    ColoredAlike contents (p.recordStep setup event step) (q.recordStep setup event step) where
  alike := h.alike.recordStep setup event step
  output := h.output
  texts := isUncolored_texts_recordStep h.texts event hstep

theorem ColoredAlike.printGlyph (h : ColoredAlike contents p q)
    (hsink : setup.sink.Appends contents) (outcome : Outcome) :
    ColoredAlike contents (p.printGlyph (setup.withColoring .always) outcome).subscriber
      (q.printGlyph (setup.withColoring .never) outcome).subscriber := by
  have hcolored : (setup.withColoring .always).sink.Appends contents := hsink
  have hplain : (setup.withColoring .never).sink.Appends contents := hsink
  obtain ⟨output, hp, hcontents⟩ := printGlyph_of_appends hcolored p outcome
  obtain ⟨output', hq, hcontents'⟩ := printGlyph_of_appends hplain q outcome
  have hglyph : IsUncolored outcome.glyph.toString := by cases outcome <;> decide
  have hline := Uncolors.of_isUncolored (isUncolored_lineEnd (p.stepsPrinted + 1))
  rw [hp, hq]
  refine ⟨{ h.alike with stepsPrinted := congrArg (· + 1) h.alike.stepsPrinted }, ?_, h.texts⟩
  rw [hcontents, hcontents', ← h.alike.stepsPrinted]
  exact h.output.append ((Uncolors.outcome setup.styles outcome hglyph).append hline)

/-- A step is counted and kept before its character is printed. -/
theorem after_stepFinished_eq (hfinished : p.finished = false) (step : StepFinished) :
    p.after setup (.stepFinished step) =
      ((p.recordStep setup (.stepFinished step) step).printGlyph setup step.outcome).subscriber := by
  simp [Progress.after, handler, Event.kind, printStep, hfinished]

/-- The reports stay so with every event that has no escape character in the texts shown. -/
theorem ColoredAlike.after (h : ColoredAlike contents p q) (hsink : setup.sink.Appends contents)
    (hcatalogue : setup.catalogue = .english) (htimer : setup.showsTimer = false) {event : Event}
    (hevent : ∀ text ∈ event.shownTexts setup.present, IsUncolored text) :
    ColoredAlike contents (p.after (setup.withColoring .always) event)
      (q.after (setup.withColoring .never) event) := by
  by_cases hstart : event = .runStarted
  · subst hstart
    have hnone : ∀ text ∈ ({ output := p.output, timer := p.timer.start } : Progress ω).texts,
        IsUncolored text := by
      simp [Progress.texts]
    exact ⟨⟨rfl, rfl, rfl, rfl, rfl, rfl⟩, h.output, hnone⟩
  · cases hfinished : p.finished with
    | true =>
        rw [after_of_finished hfinished hstart,
          after_of_finished (h.alike.finished ▸ hfinished) hstart]
        exact h
    | false =>
        have hfinished' : q.finished = false := h.alike.finished ▸ hfinished
        cases event with
        | runStarted => exact absurd rfl hstart
        | runFinished => exact h.finishRun hsink hcatalogue htimer hfinished
        | scenarioFinished scenario =>
            rw [after_scenarioFinished hfinished, after_scenarioFinished hfinished']
            exact h.recordScenario _ (hevent _ List.mem_cons_self)
        | exampleFinished scenario =>
            rw [after_exampleFinished hfinished, after_exampleFinished hfinished']
            exact h.recordScenario _ (hevent _ List.mem_cons_self)
        | stepFinished step =>
            have hrecorded := h.recordStep (.stepFinished step) hevent
            rw [after_stepFinished_eq hfinished, after_stepFinished_eq hfinished']
            exact hrecorded.printGlyph hsink step.outcome

/-- The reports stay so through all events. -/
theorem ColoredAlike.foldl_after (h : ColoredAlike contents p q)
    (hsink : setup.sink.Appends contents) (hcatalogue : setup.catalogue = .english)
    (htimer : setup.showsTimer = false) {events : List Event}
    (hevents : ∀ event ∈ events, ∀ text ∈ event.shownTexts setup.present, IsUncolored text) :
    ColoredAlike contents (events.foldl (Progress.after (setup.withColoring .always)) p)
      (events.foldl (Progress.after (setup.withColoring .never)) q) := by
  induction events generalizing p q with
  | nil => exact h
  | cons event rest ih =>
      rw [List.forall_mem_cons] at hevents
      exact ih (h.after hsink hcatalogue htimer hevents.1) hevents.2

/-- Reports that keep what the same events tell are equal in what they count and keep. -/
theorem Keeps.eq_of_keeps {other : ProgressSetup ω} {events : List Event}
    (hp : Keeps setup p events) (hq : Keeps other q events) (hbase : setup.base = other.base)
    (hpresent : setup.present = other.present) :
    p.statistics = q.statistics ∧ p.failedScenarios = q.failedScenarios ∧
      p.failedSteps = q.failedSteps ∧ p.pendingSteps = q.pendingSteps := by
  have hsteps : p.statistics.steps = q.statistics.steps :=
    Tally.ext_get fun outcome => (hp.steps outcome).trans (hq.steps outcome).symm
  have hscenarios : p.statistics.scenarios = q.statistics.scenarios :=
    Tally.ext_get fun outcome => (hp.scenarios outcome).trans (hq.scenarios outcome).symm
  have hteardowns : p.statistics.failedTeardowns = q.statistics.failedTeardowns :=
    hp.failedTeardowns.trans hq.failedTeardowns.symm
  refine ⟨?_, ?_, ?_, ?_⟩
  · calc
      p.statistics
        = ⟨p.statistics.steps, p.statistics.scenarios, p.statistics.failedTeardowns⟩ := rfl
      _ = q.statistics := by rw [hsteps, hscenarios, hteardowns]
  · rw [hp.failedScenarios, hq.failedScenarios, hbase]
  · rw [hp.failedSteps, hq.failedSteps, hbase, hpresent]
  · rw [hp.pendingSteps, hq.pendingSteps, hbase, hpresent]

/-- Two new reports get the same events, and one of them is colored. They count and keep the same,
whatever becomes of their outputs. With English messages, without the timer and with no escape
character in the texts shown, an output that never fails has what the colored one prints, and
without its escape sequences this is what the other one prints. -/
theorem deliverAll_uncolored (setup : ProgressSetup ω) (hcatalogue : setup.catalogue = .english)
    (htimer : setup.showsTimer = false) (output : ω) (events : List Event)
    (hevents : ∀ event ∈ events, ∀ text ∈ event.shownTexts setup.present, IsUncolored text) :
    let colored := ((dispatcher (setup.withColoring .always) output).deliverAll events).subscriber
    let plain := ((dispatcher (setup.withColoring .never) output).deliverAll events).subscriber
    (colored.statistics = plain.statistics ∧ colored.failedScenarios = plain.failedScenarios ∧
        colored.failedSteps = plain.failedSteps ∧ colored.pendingSteps = plain.pendingSteps ∧
        colored.finished = plain.finished) ∧
      ∀ contents : ω → String, setup.sink.Appends contents → contents output = "" →
        uncolored (contents colored.output) = contents plain.output ∧
          colored.stepsPrinted = plain.stepsPrinted := by
  intro colored plain
  have hcolored : colored =
      events.foldl (Progress.after (setup.withColoring .always)) { output := output } :=
    deliverAll_subscriber (setup.withColoring .always) { output := output } events
  have hplain : plain =
      events.foldl (Progress.after (setup.withColoring .never)) { output := output } :=
    deliverAll_subscriber (setup.withColoring .never) { output := output } events
  obtain ⟨hkept, hfinished⟩ := keeps_currentRun (setup.withColoring .always) output events
  obtain ⟨hkept', hfinished'⟩ := keeps_currentRun (setup.withColoring .never) output events
  rw [← hcolored] at hkept hfinished
  rw [← hplain] at hkept' hfinished'
  constructor
  · obtain ⟨hstatistics, hscenarios, hsteps, hpending⟩ := hkept.eq_of_keeps hkept' rfl rfl
    exact ⟨hstatistics, hscenarios, hsteps, hpending, hfinished.trans hfinished'.symm⟩
  · intro contents hsink hfresh
    have hempty : Uncolors (contents output) (contents output) := by
      rw [hfresh]
      exact .of_isUncolored isUncolored_empty
    have hstart : ColoredAlike contents ({ output := output } : Progress ω) { output := output } :=
      ⟨⟨rfl, rfl, rfl, rfl, rfl, rfl⟩, hempty, by simp [Progress.texts]⟩
    have hrun := hstart.foldl_after hsink hcatalogue htimer hevents
    rw [← hcolored, ← hplain] at hrun
    exact ⟨hrun.output.uncolored_eq, hrun.alike.stepsPrinted⟩

def failedRun : List Event :=
  [.runStarted,
    .stepFinished
      { file := "/srv/a.feature"
        step := ⟨"Then", "I have 3 apples", 4⟩
        outcome := .failed
        result := .executed ⟨"I have :count apples", "steps:7"⟩
          { error := some (.returned "expected 3\n\nfound 4" ["an apple is missing"])
            output := some "counting\n" } },
    .scenarioFinished
      { file := "/srv/a.feature", title := "Apples", line := 2, outcome := .failed },
    .runFinished]

theorem isUncolored_failedRun : ∀ event ∈ failedRun,
    ∀ text ∈ event.shownTexts (StepError.present true), IsUncolored text := by
  have herror : IsUncolored (StepError.present true
      (.returned "expected 3\n\nfound 4" ["an apple is missing"])) :=
    StepError.isUncolored_present true (by decide)
  have hstep : ∀ text ∈ ["/srv/a.feature", "Then", "I have 3 apples", "steps:7", "counting\n"],
      IsUncolored text := by
    decide
  have hscenario : ∀ text ∈ ["/srv/a.feature"], IsUncolored text := by decide
  simp only [failedRun, List.forall_mem_cons]
  refine ⟨by simp [Event.shownTexts], ?_, hscenario, by simp [Event.shownTexts], by simp⟩
  exact List.forall_mem_append.mpr ⟨hstep, List.forall_mem_singleton.mpr herror⟩

/-- A setup with verbose errors and without the timer. -/
def verboseSetup : ProgressSetup String where
  sink := .collecting
  present := StepError.present true
  base := "/srv/"
  showsTimer := false

theorem deliverAll_uncolored_failedRun :
    let colored := ((dispatcher (verboseSetup.withColoring .always) "").deliverAll
      failedRun).subscriber
    let plain := ((dispatcher (verboseSetup.withColoring .never) "").deliverAll
      failedRun).subscriber
    verboseSetup.catalogue = .english ∧ verboseSetup.showsTimer = false ∧
      (∀ event ∈ failedRun, ∀ text ∈ event.shownTexts verboseSetup.present, IsUncolored text) ∧
      colored.statistics = plain.statistics ∧ colored.failedSteps = plain.failedSteps ∧
      uncolored colored.output = plain.output := by
  intro colored plain
  obtain ⟨⟨hstatistics, -, hsteps, -, -⟩, houtput⟩ :=
    deliverAll_uncolored verboseSetup rfl rfl "" failedRun isUncolored_failedRun
  exact ⟨rfl, rfl, isUncolored_failedRun, hstatistics, hsteps,
    (houtput id Sink.appends_collecting rfl).1⟩

end Progress

end Stepwise
