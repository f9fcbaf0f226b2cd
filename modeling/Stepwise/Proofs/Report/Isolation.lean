import Stepwise.Proofs.Report.CurrentRun

/-!
# Runs that do not influence each other

A new run starts a new report behind the output of the earlier ones. Main statement: with an
output that never fails and without the timer, a run is reported in the same way whatever was
delivered before it, and so is everything that follows.
-/

namespace Stepwise

variable {σ ω : Type}

/-- The results of events that are delivered one after the other, and what was logged. -/
def Dispatcher.reactions (dispatcher : Dispatcher σ) :
    List Event → List (Except DeliveryError Unit × List LogEntry)
  | [] => []
  | event :: rest =>
      let delivery := dispatcher.deliver event
      (delivery.result, delivery.log) :: delivery.receiver.reactions rest

/-- A sink never fails and puts every text behind its contents. -/
structure Sink.Appends (sink : Sink ω) (contents : ω → String) : Prop where
  write_failure : ∀ state text, (sink.write state text).2 = none
  contents_write : ∀ state text, contents (sink.write state text).1 = contents state ++ text
  flush_failure : ∀ state, (sink.flush state).2 = none
  contents_flush : ∀ state, contents (sink.flush state).1 = contents state

theorem Sink.appends_collecting : Sink.collecting.Appends id where
  write_failure _ _ := rfl
  contents_write _ _ := rfl
  flush_failure _ := rfl
  contents_flush _ := rfl

namespace Sink.Appends

variable {sink : Sink ω} {contents : ω → String}

theorem write_eq (h : sink.Appends contents) (state : ω) (text : String) :
    sink.write state text = ((sink.write state text).1, none) :=
  Prod.ext rfl (h.write_failure state text)

theorem writeAll (h : sink.Appends contents) (texts : List String) (state : ω) :
    (sink.writeAll texts state).2 = none ∧
      contents (sink.writeAll texts state).1 = contents state ++ String.join texts := by
  induction texts generalizing state with
  | nil => simp [Sink.writeAll]
  | cons text rest ih =>
      obtain ⟨hfailure, hcontents⟩ := ih (sink.write state text).1
      rw [Sink.writeAll, h.write_eq]
      refine ⟨hfailure, ?_⟩
      rw [hcontents, h.contents_write, String.join_cons, String.append_assoc]

theorem writeAllAndFlush (h : sink.Appends contents) (texts : List String) (state : ω) :
    (sink.writeAllAndFlush texts state).2 = none ∧
      contents (sink.writeAllAndFlush texts state).1 = contents state ++ String.join texts := by
  obtain ⟨hfailure, hcontents⟩ := h.writeAll texts state
  have hwritten : sink.writeAll texts state = ((sink.writeAll texts state).1, none) :=
    Prod.ext rfl hfailure
  rw [Sink.writeAllAndFlush, hwritten]
  exact ⟨h.flush_failure _, by rw [h.contents_flush, hcontents]⟩

end Sink.Appends

namespace Progress

/-- Two reports differ in their outputs and their timers at most. -/
structure Alike (p q : Progress ω) : Prop where
  finished : p.finished = q.finished
  statistics : p.statistics = q.statistics
  stepsPrinted : p.stepsPrinted = q.stepsPrinted
  failedScenarios : p.failedScenarios = q.failedScenarios
  failedSteps : p.failedSteps = q.failedSteps
  pendingSteps : p.pendingSteps = q.pendingSteps

/-- Two reports that handle an event have the same results, log the same, and put the same
text behind the contents of their outputs. -/
structure HandledAlike (contents : ω → String) (p q : Progress ω)
    (h k : Handled (Progress ω)) : Prop where
  alike : h.subscriber.Alike k.subscriber
  failure : h.failure = k.failure
  log : h.log = k.log
  text : ∃ text, contents h.subscriber.output = contents p.output ++ text ∧
    contents k.subscriber.output = contents q.output ++ text

variable {setup : ProgressSetup ω} {contents : ω → String} {p q : Progress ω}

/-- Reports that print nothing are handled alike if they become alike. -/
theorem HandledAlike.of_silent {p' q' : Progress ω} (h : p'.Alike q') (log : List LogEntry)
    (hp : p'.output = p.output) (hq : q'.output = q.output) :
    HandledAlike contents p q { subscriber := p', log := log }
      { subscriber := q', log := log } where
  alike := h
  failure := rfl
  log := rfl
  text := ⟨"", by simp [hp], by simp [hq]⟩

/-- All reports start a run alike. -/
theorem handledAlike_startRun (contents : ω → String) (p q : Progress ω) (event : Event) :
    HandledAlike contents p q (startRun p event) (startRun q event) := by
  unfold startRun
  exact ⟨⟨rfl, rfl, rfl, rfl, rfl, rfl⟩, rfl, rfl, "", by simp, by simp⟩

theorem Alike.recordScenario (h : p.Alike q) (setup : ProgressSetup ω) (event : Event)
    (scenario : ScenarioFinished) :
    (p.recordScenario setup event scenario).Alike (q.recordScenario setup event scenario) where
  finished := h.finished
  statistics := by simp only [Progress.recordScenario, h.statistics]
  stepsPrinted := h.stepsPrinted
  failedScenarios := by simp only [Progress.recordScenario, h.failedScenarios]
  failedSteps := h.failedSteps
  pendingSteps := h.pendingSteps

theorem Alike.recordStep (h : p.Alike q) (setup : ProgressSetup ω) (event : Event)
    (step : StepFinished) :
    (p.recordStep setup event step).Alike (q.recordStep setup event step) where
  finished := h.finished
  statistics := by simp only [Progress.recordStep, h.statistics]
  stepsPrinted := h.stepsPrinted
  failedScenarios := h.failedScenarios
  failedSteps := by simp only [Progress.recordStep, h.failedSteps, h.failedScenarios]
  pendingSteps := by simp only [Progress.recordStep, h.pendingSteps]

theorem Alike.collectScenario (h : p.Alike q) (event : Event) :
    HandledAlike contents p q (collectScenario setup p event)
      (collectScenario setup q event) := by
  unfold Progress.collectScenario
  rw [h.finished]
  split
  · exact .of_silent h _ (by rfl) (by rfl)
  · split
    · exact .of_silent (h.recordScenario _ _ _) _ (by rfl) (by rfl)
    · exact .of_silent (h.recordScenario _ _ _) _ (by rfl) (by rfl)
    · exact .of_silent h _ (by rfl) (by rfl)

/-- A character that is printed for sure counts, and the end of its line follows it. -/
theorem printGlyph_of_appends (hsink : setup.sink.Appends contents) (p : Progress ω)
    (outcome : Outcome) :
    ∃ output, p.printGlyph setup outcome =
        { subscriber := { p with output := output, stepsPrinted := p.stepsPrinted + 1 } } ∧
      contents output = contents p.output ++
        (setup.styles.outcome outcome outcome.glyph.toString ++
          String.join (lineEnd (p.stepsPrinted + 1))) := by
  let glyph := setup.styles.outcome outcome outcome.glyph.toString
  let written := setup.sink.write p.output glyph
  let ended := setup.sink.writeAllAndFlush (lineEnd (p.stepsPrinted + 1)) written.1
  obtain ⟨hfailure, hcontents⟩ := hsink.writeAllAndFlush (lineEnd (p.stepsPrinted + 1)) written.1
  refine ⟨ended.1, ?_, ?_⟩
  · rw [printGlyph, hsink.write_eq]
    exact congrArg (Handled.mk _ · []) hfailure
  · rw [hcontents, hsink.contents_write, String.append_assoc]

theorem Alike.printGlyph (h : p.Alike q) (hsink : setup.sink.Appends contents)
    (outcome : Outcome) :
    HandledAlike contents p q (p.printGlyph setup outcome) (q.printGlyph setup outcome) := by
  obtain ⟨output, hp, hcontents⟩ := printGlyph_of_appends hsink p outcome
  obtain ⟨output', hq, hcontents'⟩ := printGlyph_of_appends hsink q outcome
  rw [hp, hq]
  rw [← h.stepsPrinted] at hcontents'
  exact
    { alike := { h with stepsPrinted := congrArg (· + 1) h.stepsPrinted }
      failure := rfl
      log := rfl
      text := ⟨_, hcontents, hcontents'⟩ }

theorem Alike.printStep (h : p.Alike q) (hsink : setup.sink.Appends contents) (event : Event) :
    HandledAlike contents p q (printStep setup p event) (printStep setup q event) := by
  unfold Progress.printStep
  rw [h.finished]
  split
  · exact .of_silent h _ (by rfl) (by rfl)
  · split
    · rename_i step
      have hprint := (h.recordStep setup (.stepFinished step) step).printGlyph hsink step.outcome
      exact { hprint with }
    · exact .of_silent h _ (by rfl) (by rfl)

/-- Without the timer a report is summed up by what it keeps. -/
theorem Alike.closingTexts (h : p.Alike q) (htimer : setup.showsTimer = false) :
    p.closingTexts setup = q.closingTexts setup := by
  simp only [Progress.closingTexts, summary, resources, htimer, h.stepsPrinted, h.statistics,
    h.failedScenarios, h.failedSteps, h.pendingSteps, Bool.false_eq_true, if_false]

theorem Alike.finishRun (h : p.Alike q) (hsink : setup.sink.Appends contents)
    (htimer : setup.showsTimer = false) (event : Event) :
    HandledAlike contents p q (finishRun setup p event) (finishRun setup q event) := by
  unfold Progress.finishRun
  rw [h.finished]
  split
  · exact .of_silent h _ (by rfl) (by rfl)
  · have hended : Alike { p with finished := true, timer := p.timer.stop }
        { q with finished := true, timer := q.timer.stop } := { h with finished := rfl }
    have htexts := hended.closingTexts htimer
    obtain ⟨hfailure, hcontents⟩ := hsink.writeAllAndFlush
      (Progress.closingTexts setup { q with finished := true, timer := q.timer.stop }) p.output
    obtain ⟨hfailure', hcontents'⟩ := hsink.writeAllAndFlush
      (Progress.closingTexts setup { q with finished := true, timer := q.timer.stop }) q.output
    dsimp only
    rw [htexts]
    exact
      { alike := { hended with }
        failure := hfailure.trans hfailure'.symm
        log := by simp only [h.statistics]
        text := ⟨_, hcontents, hcontents'⟩ }

/-- Reports that are alike handle every event alike. -/
theorem Alike.handler (h : p.Alike q) (hsink : setup.sink.Appends contents)
    (htimer : setup.showsTimer = false) (event : Event) :
    HandledAlike contents p q (handler setup event.kind p event)
      (handler setup event.kind q event) := by
  cases event with
  | runStarted => exact handledAlike_startRun contents p q .runStarted
  | runFinished => exact h.finishRun hsink htimer .runFinished
  | scenarioFinished scenario => exact h.collectScenario (.scenarioFinished scenario)
  | exampleFinished scenario => exact h.collectScenario (.exampleFinished scenario)
  | stepFinished step => exact h.printStep hsink (.stepFinished step)

/-- A delivery runs the one handler of the event. -/
theorem deliver_eq (setup : ProgressSetup ω) (p : Progress ω) (event : Event) :
    Dispatcher.deliver ⟨subscriptions setup, p⟩ event =
      { receiver := ⟨subscriptions setup, p.after setup event⟩
        result := resultOf (Progress.handler setup event.kind p event).failure
        log := .dispatching event.kind 1 :: (Progress.handler setup event.kind p event).log } := by
  rw [Dispatcher.deliver, Dispatcher.handlers, arranged_subscriptions, after]
  simp only [deliverTo, runHandlers]
  split
  · rfl
  · rename_i hfailure
    simp [hfailure]

/-- Two reports that go on alike are alike in the end, react in the same way, and put the same
text behind the contents of their outputs. -/
structure RunAlike (setup : ProgressSetup ω) (contents : ω → String) (p q : Progress ω)
    (events : List Event) : Prop where
  alike : (events.foldl (after setup) p).Alike (events.foldl (after setup) q)
  reactions : Dispatcher.reactions ⟨subscriptions setup, p⟩ events =
    Dispatcher.reactions ⟨subscriptions setup, q⟩ events
  text : ∃ text, contents (events.foldl (after setup) p).output = contents p.output ++ text ∧
    contents (events.foldl (after setup) q).output = contents q.output ++ text

/-- Reports that handle an event alike go on alike. -/
theorem HandledAlike.runAlike {event : Event} {rest : List Event}
    (h : HandledAlike contents p q (handler setup event.kind p event)
      (handler setup event.kind q event))
    (hrest : RunAlike setup contents (p.after setup event) (q.after setup event) rest) :
    RunAlike setup contents p q (event :: rest) where
  alike := hrest.alike
  reactions := by
    simp only [Dispatcher.reactions, deliver_eq, h.failure, h.log, hrest.reactions]
  text := by
    obtain ⟨first, hp, hq⟩ := h.text
    obtain ⟨others, hp', hq'⟩ := hrest.text
    refine ⟨first ++ others, ?_, ?_⟩
    · rw [List.foldl_cons, hp', after, hp, String.append_assoc]
    · rw [List.foldl_cons, hq', after, hq, String.append_assoc]

/-- Reports that are alike stay alike. -/
theorem Alike.runAlike (h : p.Alike q) (hsink : setup.sink.Appends contents)
    (htimer : setup.showsTimer = false) (events : List Event) :
    RunAlike setup contents p q events := by
  induction events generalizing p q with
  | nil => exact ⟨h, rfl, "", by simp, by simp⟩
  | cons event rest ih =>
      have hhandled := h.handler hsink htimer event
      exact hhandled.runAlike (ih hhandled.alike)

/-- Whatever was reported before, a run goes on like a run of any other report. -/
theorem runAlike_of_runStarted (hsink : setup.sink.Appends contents)
    (htimer : setup.showsTimer = false) (p q : Progress ω) (rest : List Event) :
    RunAlike setup contents p q (.runStarted :: rest) := by
  have hstarted := handledAlike_startRun contents p q .runStarted
  exact hstarted.runAlike (hstarted.alike.runAlike hsink htimer rest)

/-- With an output that never fails and without the timer, what is printed for a run behind any
history is the whole output of a new report of that run. The counters and the records are the
same in both then, and so are the results, the log entries and the texts of all events that
follow. -/
theorem deliverAll_runStarted_isolated (setup : ProgressSetup ω) (contents : ω → String)
    (hsink : setup.sink.Appends contents) (htimer : setup.showsTimer = false)
    (output fresh : ω) (hfresh : contents fresh = "") (history rest further : List Event) :
    let run := Event.runStarted :: rest
    let before := (dispatcher setup output).deliverAll history
    let later := before.deliverAll run
    let alone := (dispatcher setup fresh).deliverAll run
    let laterStill := later.deliverAll further
    let aloneStill := alone.deliverAll further
    contents later.subscriber.output =
        contents before.subscriber.output ++ contents alone.subscriber.output ∧
      before.reactions run = (dispatcher setup fresh).reactions run ∧
      later.subscriber.Alike alone.subscriber ∧
      later.reactions further = alone.reactions further ∧
      laterStill.subscriber.Alike aloneStill.subscriber ∧
      ∃ text,
        contents laterStill.subscriber.output = contents later.subscriber.output ++ text ∧
          contents aloneStill.subscriber.output = contents alone.subscriber.output ++ text := by
  intro run before later alone laterStill aloneStill
  have hbefore : before = ⟨subscriptions setup, before.subscriber⟩ := by
    simp only [before, dispatcher, deliverAll_eq]
  have hlater : later = ⟨subscriptions setup, run.foldl (after setup) before.subscriber⟩ := by
    rw [← deliverAll_eq, ← hbefore]
  have halone : alone = ⟨subscriptions setup, run.foldl (after setup) { output := fresh }⟩ :=
    deliverAll_eq setup { output := fresh } run
  have hlaterStill : laterStill =
      ⟨subscriptions setup, further.foldl (after setup) later.subscriber⟩ := by
    simp only [laterStill, hlater, deliverAll_eq]
  have haloneStill : aloneStill =
      ⟨subscriptions setup, further.foldl (after setup) alone.subscriber⟩ := by
    simp only [aloneStill, halone, deliverAll_eq]
  have hrun := runAlike_of_runStarted hsink htimer before.subscriber { output := fresh } rest
  have hfurther := hrun.alike.runAlike hsink htimer further
  obtain ⟨text, htext, hall⟩ := hrun.text
  rw [hfresh, String.empty_append] at hall
  rw [hlaterStill, haloneStill, hlater, halone]
  refine ⟨?_, ?_, hrun.alike, hfurther.reactions, hfurther.alike, hfurther.text⟩
  · rw [htext, hall]
  · rw [hbefore]
    exact hrun.reactions

/-- A report without the timer whose output is a text. -/
def quietSetup : ProgressSetup String where
  sink := .collecting
  showsTimer := false

def passingStep : Event :=
  .stepFinished ⟨"basket.feature", ⟨"Given", "a basket", 3⟩, .passed, .undefined, none⟩

/-- A run that is given up in the middle of a line does not move the end of a line in the next
run, which has a full line of its own. -/
theorem isolated_behind_abortedRun :
    let run := Event.runStarted :: List.replicate 71 passingStep
    let before := (dispatcher quietSetup "").deliverAll (List.replicate 35 passingStep)
    let later := before.deliverAll run
    let alone := (dispatcher quietSetup "").deliverAll run
    quietSetup.sink.Appends id ∧ quietSetup.showsTimer = false ∧ id "" = "" ∧
      later.subscriber.output = before.subscriber.output ++ alone.subscriber.output ∧
      later.subscriber.Alike alone.subscriber ∧
      later.reactions [.runFinished] = alone.reactions [.runFinished] :=
  have h := deliverAll_runStarted_isolated quietSetup id Sink.appends_collecting rfl "" "" rfl
    (List.replicate 35 passingStep) (List.replicate 71 passingStep) [.runFinished]
  ⟨Sink.appends_collecting, rfl, rfl, h.1, h.2.2.1, h.2.2.2.1⟩

end Progress

end Stepwise
