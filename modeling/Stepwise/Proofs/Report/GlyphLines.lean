import Stepwise.Proofs.Report.Isolation
import Stepwise.Proofs.Report.Uncoloring

/-!
# The lines of a run

While a run goes on, a character is written for each step, whatever is delivered between the
steps. Main statement: without colors and on an output that never fails, a run is written as full
lines of seventy characters and a rest, and the summary follows behind an empty line. The numbers
of steps in it are the numbers of characters in the lines.
-/

namespace Stepwise

variable {ω : Type}

/-- The characters of some outcomes; behind every seventieth one its number ends the line. -/
def glyphLines (outcomes : List Outcome) : String :=
  String.join (outcomes.zipIdx.map fun (outcome, i) =>
    outcome.glyph.toString ++ if (i + 1) % 70 = 0 then " " ++ toString (i + 1) ++ "\n" else "")

/-- What stands between the characters of a number of steps and the summary. -/
def gapBehind (n : Nat) : String :=
  (if n % 70 = 0 then "" else "\n") ++ "\n"

/-- How often the character of an outcome occurs in a text. -/
def glyphCount (text : String) (outcome : Outcome) : Nat :=
  text.toList.count outcome.glyph

/-- How many characters of outcomes a text has. -/
def glyphTotal (text : String) : Nat :=
  Outcome.all.foldr (fun outcome sum => glyphCount text outcome + sum) 0

/-- The line about all steps, told from the characters that were printed for them. -/
def stepsLineOf (text : String) : String :=
  let parts := (Outcome.all.filter fun outcome => 0 < glyphCount text outcome).map fun outcome =>
    toString (glyphCount text outcome) ++ " " ++ outcome.name
  Catalogue.countedNoun (glyphTotal text) "step" ++
    (if parts.isEmpty then "" else " (" ++ ", ".intercalate parts ++ ")") ++ "\n"

theorem join_lineEnd (n : Nat) :
    String.join (Progress.lineEnd n) = if n % 70 = 0 then " " ++ toString n ++ "\n" else "" := by
  rw [Progress.lineEnd, stepsPerLine]
  split
  · simp
  · rfl

theorem glyphLines_concat (outcomes : List Outcome) (outcome : Outcome) :
    glyphLines (outcomes ++ [outcome]) =
      glyphLines outcomes ++
        (outcome.glyph.toString ++ String.join (Progress.lineEnd (outcomes.length + 1))) := by
  rw [join_lineEnd, glyphLines, List.zipIdx_append, List.map_append, String.join_append, glyphLines]
  simp

/-- The end of a line has no character of a step. -/
theorem glyphCount_lineEnd (n : Nat) (outcome : Outcome) :
    glyphCount (String.join (Progress.lineEnd n)) outcome = 0 := by
  rw [join_lineEnd, glyphCount, List.count_eq_zero]
  split
  · intro hmem
    simp only [String.toList_append, List.mem_append] at hmem
    rcases hmem with (hmem | hmem) | hmem
    · cases outcome <;> exact absurd hmem (by decide)
    · have hdigit := isDigit_of_mem_toString hmem
      cases outcome <;> exact absurd hdigit (by decide)
    · cases outcome <;> exact absurd hmem (by decide)
  · simp

theorem glyphCount_append (a b : String) (outcome : Outcome) :
    glyphCount (a ++ b) outcome = glyphCount a outcome + glyphCount b outcome := by
  rw [glyphCount, String.toList_append, List.count_append, glyphCount, glyphCount]

theorem glyphCount_glyph (printed outcome : Outcome) :
    glyphCount printed.glyph.toString outcome = if printed = outcome then 1 else 0 := by
  cases printed <;> cases outcome <;> decide

/-- Every outcome is in the lines as often as it is among the outcomes. -/
theorem glyphCount_glyphLines (outcomes : List Outcome) (outcome : Outcome) :
    glyphCount (glyphLines outcomes) outcome = outcomes.count outcome := by
  induction outcomes using List.reverseRecOn with
  | nil => rfl
  | append_singleton outcomes last ih =>
      rw [glyphLines_concat, glyphCount_append, glyphCount_append, glyphCount_lineEnd,
        glyphCount_glyph, ih, List.count_append, List.count_singleton, Nat.add_zero]
      simp only [beq_iff_eq]

/-- The characters of some steps and the gap behind them end with one empty line. -/
theorem glyphLines_gapBehind {outcomes : List Outcome} (h : outcomes ≠ []) :
    ∃ front c, c ≠ '\n' ∧
      (glyphLines outcomes ++ gapBehind outcomes.length).toList = front ++ [c, '\n', '\n'] := by
  obtain ⟨earlier, last, rfl⟩ := (List.eq_nil_or_concat' outcomes).resolve_left h
  rw [glyphLines_concat, join_lineEnd, gapBehind, List.length_append, List.length_singleton]
  by_cases hfull : (earlier.length + 1) % 70 = 0
  · have hdigits : (toString (earlier.length + 1)).toList ≠ [] := by
      rw [Nat.toString_eq_ofList_toDigits, String.toList_ofList]
      exact Nat.toDigits_ne_nil
    let digit := (toString (earlier.length + 1)).toList.getLast hdigits
    have hdigit : digit.isDigit = true := isDigit_of_mem_toString (List.getLast_mem hdigits)
    refine ⟨(glyphLines earlier).toList ++ (last.glyph.toString.toList ++ (' ' ::
      (toString (earlier.length + 1)).toList.dropLast)), digit, ?_, ?_⟩
    · rintro heq
      rw [heq] at hdigit
      exact absurd hdigit (by decide)
    · rw [if_pos hfull, if_pos hfull]
      simp only [String.toList_append]
      conv_lhs => rw [← List.dropLast_append_getLast hdigits]
      simp [digit]
  · refine ⟨(glyphLines earlier).toList, last.glyph, ?_, ?_⟩
    · cases last <;> decide
    · rw [if_neg hfull, if_neg hfull]
      simp

/-- The line about all steps is told from the characters if they are as many as the steps. -/
theorem tallyLine_eq_stepsLineOf (styles : Styles) {tally : Tally} {text : String}
    (h : ∀ outcome, tally.get outcome = glyphCount text outcome) :
    Report.tallyLine styles.plain .english "steps_count" tally = stepsLineOf text := by
  have htotal : Catalogue.english.counted "steps_count" tally.total =
      Catalogue.countedNoun (glyphTotal text) "step" := by
    have hsum : tally.total = glyphTotal text := by
      rw [Tally.total, Tally.toList, List.foldr_map, glyphTotal]
      simp only [h]
    rw [hsum]
    rfl
  have hend : ")\n" = ")" ++ "\n" := by decide
  have hentries : (tally.toList.filter fun entry => 0 < entry.2) =
      (Outcome.all.filter fun outcome => 0 < glyphCount text outcome).map fun outcome =>
        (outcome, glyphCount text outcome) := by
    rw [Tally.toList, List.filter_map]
    simp only [h]
    rfl
  have hdetails : Report.tallyDetails styles.plain .english tally = ", ".intercalate
      ((Outcome.all.filter fun outcome => 0 < glyphCount text outcome).map fun outcome =>
        toString (glyphCount text outcome) ++ " " ++ outcome.name) := by
    rw [Report.tallyDetails, hentries, List.map_map]
    simp only [Function.comp_def, Report.counted_keyOf]
    rfl
  by_cases hnone : (tally.toList.filter fun entry => 0 < entry.2) = []
  · rw [hentries, List.map_eq_nil_iff] at hnone
    rw [Report.tallyLine, hdetails, stepsLineOf, hnone, htotal]
    simp
  · have hplain := Report.tallyDetails_ne_empty styles hnone
    rw [hentries, List.map_eq_nil_iff] at hnone
    rw [Report.tallyLine, stepsLineOf]
    simp only [String.isEmpty_iff, hplain, List.isEmpty_iff, List.map_eq_nil_iff, hnone, if_false]
    rw [hdetails, htotal, hend]
    simp only [String.append_assoc]

namespace Progress

variable {setup : ProgressSetup ω} {contents : ω → String}

/-- The characters of some outcomes were printed in a run that is not finished yet. -/
structure Streamed (contents : ω → String) (before : String) (outcomes : List Outcome)
    (progress : Progress ω) : Prop where
  contents_output : contents progress.output = before ++ glyphLines outcomes
  stepsPrinted : progress.stepsPrinted = outcomes.length
  finished : progress.finished = false

theorem Streamed.after {before : String} {outcomes : List Outcome} {progress : Progress ω}
    (h : Streamed contents before outcomes progress) (hsink : setup.sink.Appends contents)
    (hstyles : setup.styles.colored = false) {event : Event} (hstart : event ≠ .runStarted)
    (hfinish : event ≠ .runFinished) :
    Streamed contents before (outcomes ++ event.stepOutcome?.toList)
      (progress.after setup event) := by
  cases event with
  | runStarted => exact absurd rfl hstart
  | runFinished => exact absurd rfl hfinish
  | scenarioFinished scenario =>
      rw [after_scenarioFinished h.finished]
      simp only [Event.stepOutcome?, Option.toList_none, List.append_nil]
      exact ⟨h.contents_output, h.stepsPrinted, h.finished⟩
  | exampleFinished scenario =>
      rw [after_exampleFinished h.finished]
      simp only [Event.stepOutcome?, Option.toList_none, List.append_nil]
      exact ⟨h.contents_output, h.stepsPrinted, h.finished⟩
  | stepFinished step =>
      obtain ⟨output, hprint, hcontents⟩ := printGlyph_of_appends hsink
        (progress.recordStep setup (.stepFinished step) step) step.outcome
      have hafter : progress.after setup (.stepFinished step) =
          { progress.recordStep setup (.stepFinished step) step with
            output := output, stepsPrinted := progress.stepsPrinted + 1 } := by
        simp only [Progress.after, handler, Event.kind, printStep, h.finished, Bool.false_eq_true,
          if_false, hprint]
        rfl
      rw [hafter, Event.stepOutcome?, Option.toList_some]
      refine ⟨?_, ?_, h.finished⟩
      · rw [glyphLines_concat, ← h.stepsPrinted, ← String.append_assoc, ← h.contents_output]
        rw [← Styles.plain_eq_self hstyles] at hcontents
        exact hcontents
      · rw [List.length_append, List.length_singleton, ← h.stepsPrinted]

/-- Whatever a run consists of, its lines tell the outcomes of its steps. -/
theorem streamed_foldl (hsink : setup.sink.Appends contents)
    (hstyles : setup.styles.colored = false) (output : ω) {events : List Event}
    (hevents : ∀ event ∈ events, event ≠ .runStarted ∧ event ≠ .runFinished) :
    Streamed contents (contents output) (events.filterMap Event.stepOutcome?)
      ((Event.runStarted :: events).foldl (Progress.after setup) { output := output }) := by
  induction events using List.reverseRecOn with
  | nil => exact ⟨by simp [glyphLines, Progress.after, handler, Event.kind, startRun], rfl, rfl⟩
  | append_singleton events event ih =>
      rw [List.forall_mem_append] at hevents
      obtain ⟨hstart, hfinish⟩ := hevents.2 event (List.mem_singleton_self event)
      have hlast : [event].filterMap Event.stepOutcome? = event.stepOutcome?.toList := by
        cases event <;> rfl
      rw [← List.cons_append, List.foldl_append, List.filterMap_append, hlast]
      exact (ih hevents.1).after hsink hstyles hstart hfinish

/-- A run that only goes on is the current run. -/
theorem currentRun_runStarted_cons {events : List Event}
    (hevents : ∀ event ∈ events, event ≠ .runStarted ∧ event ≠ .runFinished) :
    currentRun (.runStarted :: events) = events ∧
      currentRunEnded (.runStarted :: events) = false := by
  induction events using List.reverseRecOn with
  | nil => exact ⟨rfl, rfl⟩
  | append_singleton events event ih =>
      rw [List.forall_mem_append] at hevents
      obtain ⟨hstart, hfinish⟩ := hevents.2 event (List.mem_singleton_self event)
      obtain ⟨hrun, hended⟩ := ih hevents.1
      rw [← List.cons_append, currentRun_concat_of_not_ended hstart hended, if_neg hfinish,
        currentRunEnded_concat _ hstart, hrun, hended]
      exact ⟨rfl, by simpa using hfinish⟩

/-- The steps that are counted are those whose characters stand in the lines. -/
theorem steps_get_eq_glyphCount (setup : ProgressSetup ω) (output : ω) {events : List Event}
    (hevents : ∀ event ∈ events, event ≠ .runStarted ∧ event ≠ .runFinished)
    (outcome : Outcome) :
    ((Event.runStarted :: events).foldl (Progress.after setup)
        { output := output }).statistics.steps.get outcome =
      glyphCount (glyphLines (events.filterMap Event.stepOutcome?)) outcome := by
  have hkeeps := (keeps_currentRun setup output (.runStarted :: events)).1
  rw [(currentRun_runStarted_cons hevents).1] at hkeeps
  rw [hkeeps.steps, glyphCount_glyphLines, List.count, List.countP_filterMap]
  apply List.countP_congr
  intro event _
  cases event.stepOutcome? <;> simp

/-- The summary of a run that was only printed without colors and in English. -/
theorem summary_eq {progress : Progress ω} {text : String} (hstyles : setup.styles.colored = false)
    (hcatalogue : setup.catalogue = .english)
    (hsteps : ∀ outcome, progress.statistics.steps.get outcome = glyphCount text outcome) :
    progress.summary setup =
      Report.failedSteps setup.styles setup.catalogue progress.failedSteps
          progress.failedScenarios ++
        Report.pendingSteps setup.styles setup.catalogue progress.pendingSteps ++
        Report.tallyLine setup.styles setup.catalogue "scenarios_count"
          progress.statistics.scenarios ++
        stepsLineOf text ++
        Report.failedTeardowns setup.styles setup.catalogue
          progress.statistics.failedTeardowns ++
        progress.resources setup := by
  rw [← tallyLine_eq_stepsLineOf setup.styles hsteps, Styles.plain_eq_self hstyles, summary,
    hcatalogue]

theorem join_closingTexts (setup : ProgressSetup ω) (progress : Progress ω) :
    String.join (progress.closingTexts setup) =
      gapBehind progress.stepsPrinted ++ progress.summary setup := by
  rw [closingTexts, gapBehind, stepsPerLine]
  split
  · simp
  · simp only [List.singleton_append, String.join_cons, String.join_nil, String.append_empty,
      String.append_assoc]

/-- Without colors and on an output that never fails, a run is written as the characters of its
steps, where every seventieth one ends a line with its number, an empty line, and the summary,
whose line about the steps has the numbers of the characters. Nothing is written behind it until
the next run is started. -/
theorem deliverAll_writes_glyphLines (setup : ProgressSetup ω) (contents : ω → String)
    (hsink : setup.sink.Appends contents) (hstyles : setup.styles.colored = false)
    (hcatalogue : setup.catalogue = .english) (output : ω) (events : List Event)
    (hevents : ∀ event ∈ events, event ≠ .runStarted ∧ event ≠ .runFinished) :
    let outcomes := events.filterMap Event.stepOutcome?
    let stream := glyphLines outcomes
    let gap := gapBehind outcomes.length
    let run := Event.runStarted :: events
    let running := ((dispatcher setup output).deliverAll run).subscriber
    let ended := ((dispatcher setup output).deliverAll (run ++ [.runFinished])).subscriber
    contents running.output = contents output ++ stream ∧
      running.stepsPrinted = outcomes.length ∧
      contents ended.output = contents output ++ stream ++ gap ++ ended.summary setup ∧
      (∃ front, (stream ++ gap).toList = front ++ ['\n']) ∧
      (outcomes ≠ [] → ∃ front c, c ≠ '\n' ∧ (stream ++ gap).toList = front ++ [c, '\n', '\n']) ∧
      ended.summary setup =
        Report.failedSteps setup.styles setup.catalogue ended.failedSteps
            ended.failedScenarios ++
          Report.pendingSteps setup.styles setup.catalogue ended.pendingSteps ++
          Report.tallyLine setup.styles setup.catalogue "scenarios_count"
            ended.statistics.scenarios ++
          stepsLineOf stream ++
          Report.failedTeardowns setup.styles setup.catalogue
            ended.statistics.failedTeardowns ++
          ended.resources setup ∧
      ∀ further, Event.runStarted ∉ further →
        ((dispatcher setup output).deliverAll (run ++ .runFinished :: further)).subscriber =
          ended := by
  intro outcomes stream gap run running ended
  have hrunning : running = run.foldl (Progress.after setup) { output := output } :=
    deliverAll_subscriber setup { output := output } run
  have hended : ended = running.after setup .runFinished := by
    simp only [ended, dispatcher, deliverAll_subscriber, List.foldl_append, hrunning]
    rfl
  have hstreamed := streamed_foldl hsink hstyles output hevents
  have hcounts := steps_get_eq_glyphCount setup output hevents
  rw [← hrunning] at hstreamed hcounts
  have hafter := @after_runFinished _ setup running hstreamed.finished
  rw [← hended] at hafter
  refine ⟨hstreamed.contents_output, hstreamed.stepsPrinted, ?_, ?_, glyphLines_gapBehind, ?_, ?_⟩
  · obtain ⟨-, hcontents⟩ := hsink.writeAllAndFlush
      (closingTexts setup { running with finished := true, timer := running.timer.stop })
      running.output
    rw [join_closingTexts, hstreamed.contents_output, ← String.append_assoc] at hcontents
    have hgap : gap = gapBehind running.stepsPrinted :=
      congrArg gapBehind hstreamed.stepsPrinted.symm
    rw [hafter, hgap]
    exact hcontents
  · refine ⟨(stream ++ if outcomes.length % 70 = 0 then "" else "\n").toList, ?_⟩
    simp only [gap, gapBehind]
    rw [← String.append_assoc, String.toList_append]
    rfl
  · refine summary_eq hstyles hcatalogue ?_
    rw [hafter]
    exact hcounts
  · intro further hfurther
    have hfinished : ended.finished = true := by
      rw [hended]
      exact finished_after_runFinished setup running
    rw [List.append_cons]
    simp only [ended, dispatcher, deliverAll_subscriber, List.foldl_append] at hfinished ⊢
    exact foldl_after_of_finished hfinished hfurther

/-- A run whose first line is full and whose second line has one character. -/
theorem glyphLines_of_seventyOne :
    let events := List.replicate 71 passingStep
    let ended := ((dispatcher quietSetup "").deliverAll
      (.runStarted :: events ++ [.runFinished])).subscriber
    quietSetup.sink.Appends id ∧ quietSetup.styles.colored = false ∧
      quietSetup.catalogue = .english ∧
      (∀ event ∈ events, event ≠ .runStarted ∧ event ≠ .runFinished) ∧
      ended.output =
        glyphLines (List.replicate 71 .passed) ++ "\n\n" ++ ended.summary quietSetup ∧
      glyphLines (List.replicate 71 .passed) = String.ofList (List.replicate 70 '.') ++ " 70\n." ∧
      stepsLineOf (glyphLines (List.replicate 71 .passed)) = "71 steps (71 passed)\n" := by
  have hevents : ∀ event ∈ List.replicate 71 passingStep,
      event ≠ .runStarted ∧ event ≠ .runFinished := by
    intro event hevent
    rw [List.eq_of_mem_replicate hevent]
    exact ⟨by simp [passingStep], by simp [passingStep]⟩
  have houtcomes : (List.replicate 71 passingStep).filterMap Event.stepOutcome? =
      List.replicate 71 .passed := List.filterMap_replicate_of_some rfl
  have htext := (deliverAll_writes_glyphLines quietSetup id Sink.appends_collecting rfl rfl ""
    (List.replicate 71 passingStep) hevents).2.2.1
  rw [houtcomes, List.length_replicate] at htext
  have hgap : gapBehind 71 = "\n\n" := by decide
  rw [id, id, String.empty_append, hgap] at htext
  exact ⟨Sink.appends_collecting, rfl, rfl, hevents, htext, by decide +kernel,
    by decide +kernel⟩

end Progress

end Stepwise
