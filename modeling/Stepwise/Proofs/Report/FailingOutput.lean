import Stepwise.Proofs.Report.Isolation

/-!
# Reports on outputs that fail

Every call of a sink may fail, and the events that follow are delivered even so. Main
statement: what a report counts and records does not depend on its output, the characters that
it counts are those that were written, and a summary is not started twice in a run.
-/

namespace Stepwise

variable {ω ω' : Type}

inductive Sink.Call
  | write (text : String) (failure : Option String)
  | flush (failure : Option String)
deriving DecidableEq, Repr

namespace Sink

/-- The text with which a call failed. -/
def Call.failure? : Call → Option String
  | write _ failure => failure
  | flush failure => failure

/-- A sink that notes each call behind the earlier ones. -/
def noted (sink : Sink ω) : Sink (ω × List Call) where
  write state text :=
    let (after, failure) := sink.write state.1 text
    ((after, state.2 ++ [.write text failure]), failure)
  flush state :=
    let (after, failure) := sink.flush state.1
    ((after, state.2 ++ [.flush failure]), failure)

theorem noted_write (sink : Sink ω) (state : ω × List Call) (text : String) :
    sink.noted.write state text =
      (((sink.write state.1 text).1, state.2 ++ [.write text (sink.write state.1 text).2]),
        (sink.write state.1 text).2) :=
  rfl

theorem noted_flush (sink : Sink ω) (state : ω × List Call) :
    sink.noted.flush state =
      (((sink.flush state.1).1, state.2 ++ [.flush (sink.flush state.1).2]),
        (sink.flush state.1).2) :=
  rfl

/-- Calls that are made up to the first one that fails, and the failure they end with. -/
inductive Attempt : List Call → Option String → Prop
  | nil : Attempt [] none
  | single (call : Call) : Attempt [call] call.failure?
  | cons {call : Call} {made : List Call} {failure : Option String}
      (hcall : call.failure? = none) (h : Attempt made failure) : Attempt (call :: made) failure

namespace Attempt

variable {made : List Call} {failure : Option String}

/-- Behind calls that succeed there may be others. -/
theorem append {first : List Call} (hfirst : Attempt first none) (h : Attempt made failure) :
    Attempt (first ++ made) failure := by
  generalize hnone : (none : Option String) = ended at hfirst
  induction hfirst with
  | nil => exact h
  | single call => exact .cons hnone.symm h
  | cons hcall _ ih => exact .cons hcall (ih hnone)

theorem failure_eq (h : Attempt made failure) : made.getLast?.bind Call.failure? = failure := by
  induction h with
  | nil => rfl
  | single call => rfl
  | @cons call made failure hcall h ih =>
      cases made with
      | nil => rw [← ih]; exact hcall
      | cons next rest => rw [List.getLast?_cons_cons, ih]

theorem succeeded (h : Attempt made failure) : ∀ call ∈ made.dropLast, call.failure? = none := by
  induction h with
  | nil => simp
  | single call => simp
  | @cons call made failure hcall h ih =>
      cases made with
      | nil => simp
      | cons next rest =>
          rw [List.dropLast_cons_cons, List.forall_mem_cons]
          exact ⟨hcall, ih⟩

end Attempt

/-- Noting the calls changes nothing else: the texts are written as before, and calls are made
up to the first one that fails. -/
theorem noted_writeAll (sink : Sink ω) (texts : List String) (state : ω × List Call) :
    ∃ made,
      sink.noted.writeAll texts state =
        (((sink.writeAll texts state.1).1, state.2 ++ made), (sink.writeAll texts state.1).2) ∧
      Attempt made (sink.writeAll texts state.1).2 ∧
      ∀ text failure, Call.write text failure ∈ made → text ∈ texts := by
  induction texts generalizing state with
  | nil => exact ⟨[], by simp [writeAll], .nil, by simp⟩
  | cons text rest ih =>
      obtain ⟨after, failure, hwrite⟩ : ∃ after failure,
          sink.write state.1 text = (after, failure) := ⟨_, _, rfl⟩
      cases failure with
      | some failure =>
          refine ⟨[.write text (some failure)], ?_, ?_, by simp⟩
          · simp only [writeAll, noted_write, hwrite]
          · simp only [writeAll, hwrite]
            exact .single (.write text (some failure))
      | none =>
          obtain ⟨made, hmade, hattempt, htexts⟩ := ih (after, state.2 ++ [.write text none])
          refine ⟨.write text none :: made, ?_, ?_, ?_⟩
          · simp only [writeAll, noted_write, hwrite, hmade, List.append_assoc,
              List.singleton_append]
          · simp only [writeAll, hwrite]
            exact .cons rfl hattempt
          · intro other failure hmem
            rcases List.mem_cons.mp hmem with heq | hmem
            · rw [Call.write.injEq] at heq
              exact heq.1 ▸ List.mem_cons_self
            · exact List.mem_cons_of_mem text (htexts other failure hmem)

theorem noted_writeAllAndFlush (sink : Sink ω) (texts : List String) (state : ω × List Call) :
    ∃ made,
      sink.noted.writeAllAndFlush texts state =
        (((sink.writeAllAndFlush texts state.1).1, state.2 ++ made),
          (sink.writeAllAndFlush texts state.1).2) ∧
      Attempt made (sink.writeAllAndFlush texts state.1).2 ∧
      ∀ text failure, Call.write text failure ∈ made → text ∈ texts := by
  obtain ⟨made, hmade, hattempt, htexts⟩ := sink.noted_writeAll texts state
  obtain ⟨after, failure, hwritten⟩ : ∃ after failure,
      sink.writeAll texts state.1 = (after, failure) := ⟨_, _, rfl⟩
  rw [hwritten] at hmade hattempt
  cases failure with
  | some failure =>
      refine ⟨made, ?_, ?_, htexts⟩
      · simp only [writeAllAndFlush, hmade, hwritten]
      · simpa only [writeAllAndFlush, hwritten] using hattempt
  | none =>
      refine ⟨made ++ [.flush (sink.flush after).2], ?_, ?_, ?_⟩
      · simp only [writeAllAndFlush, hmade, hwritten, noted_flush, List.append_assoc]
      · simp only [writeAllAndFlush, hwritten]
        exact hattempt.append (.single (.flush (sink.flush after).2))
      · intro text failure hmem
        rw [List.mem_append, List.mem_singleton] at hmem
        rcases hmem with hmem | heq
        · exact htexts text failure hmem
        · exact absurd heq (by simp)

end Sink

def ProgressSetup.writingTo (setup : ProgressSetup ω) (sink : Sink ω') : ProgressSetup ω' :=
  { setup with sink := sink }

/-- Some events up to the last start of a run; none if no run was started. -/
def upToStart (events : List Event) : List Event :=
  events.rdropWhile (· ≠ .runStarted)

theorem upToStart_concat (events : List Event) (event : Event) :
    upToStart (events ++ [event]) =
      if event = .runStarted then events ++ [event] else upToStart events := by
  rw [upToStart, List.rdropWhile_concat]
  by_cases hstart : event = .runStarted
  · simp [hstart]
  · simp [hstart, upToStart]

namespace Progress

def mapOutput (f : ω → ω') (progress : Progress ω) : Progress ω' :=
  { progress with output := f progress.output }

@[simp] theorem finished_mapOutput (f : ω → ω') (progress : Progress ω) :
    (progress.mapOutput f).finished = progress.finished :=
  rfl

/-- Whether a call put the character of a step on the output. -/
def wroteGlyph (styles : Styles) : Sink.Call → Bool
  | .write text none =>
      Outcome.all.any fun outcome => text = styles.outcome outcome outcome.glyph.toString
  | _ => false

/-- The character of a step has no blank and no end of a line, even if it is colored. -/
theorem not_mem_glyph (styles : Styles) (outcome : Outcome) :
    ' ' ∉ (styles.outcome outcome outcome.glyph.toString).toList ∧
      '\n' ∉ (styles.outcome outcome outcome.glyph.toString).toList := by
  have hglyph : ' ' ∉ outcome.glyph.toString.toList ∧ '\n' ∉ outcome.glyph.toString.toList := by
    cases outcome <;> decide
  have hcode {c : Char} (hc : isCodeCharacter c = false) :
      c ∉ (styles.of outcome).code.toList := fun hmem => by
    have hall := List.all_eq_true.mp (styles.of outcome).isCode c hmem
    exact absurd (hall.symm.trans hc) (by decide)
  rw [Styles.outcome, Styles.paint]
  split
  · simp only [Styles.sequence, String.toList_append, List.mem_append, not_or]
    exact ⟨⟨⟨⟨⟨by decide, hcode (by decide)⟩, by decide⟩, hglyph.1⟩, by decide⟩,
      ⟨⟨⟨⟨by decide, hcode (by decide)⟩, by decide⟩, hglyph.2⟩, by decide⟩⟩
  · exact hglyph

/-- What ends a line or a report is no character of a step. -/
theorem wroteGlyph_eq_false (styles : Styles) {text : String}
    (htext : ' ' ∈ text.toList ∨ '\n' ∈ text.toList) (failure : Option String) :
    wroteGlyph styles (.write text failure) = false := by
  cases failure with
  | some failure => rfl
  | none =>
      rw [wroteGlyph, List.any_eq_false]
      intro outcome _ heq
      have hglyph := not_mem_glyph styles outcome
      rw [← of_decide_eq_true heq] at hglyph
      exact htext.elim hglyph.1 hglyph.2

theorem wroteGlyph_of_outcome (styles : Styles) (outcome : Outcome) :
    wroteGlyph styles (.write (styles.outcome outcome outcome.glyph.toString) none) = true := by
  rw [wroteGlyph, List.any_eq_true]
  exact ⟨outcome, outcome.mem_all, decide_eq_true rfl⟩

theorem mem_of_mem_lineEnd {n : Nat} {text : String} (htext : text ∈ lineEnd n) :
    ' ' ∈ text.toList ∨ '\n' ∈ text.toList := by
  rw [lineEnd] at htext
  split at htext
  · rw [List.mem_pair] at htext
    rcases htext with rfl | rfl
    · exact Or.inl (by simp)
    · exact Or.inr (by simp)
  · exact absurd htext List.not_mem_nil

theorem newline_mem_tallyLine (styles : Styles) (catalogue : Catalogue) (key : String)
    (tally : Tally) : '\n' ∈ (Report.tallyLine styles catalogue key tally).toList := by
  rw [Report.tallyLine]
  split <;> simp

theorem newline_mem_of_mem_closingTexts {setup : ProgressSetup ω} {progress : Progress ω}
    {text : String} (htext : text ∈ progress.closingTexts setup) : '\n' ∈ text.toList := by
  have hsummary : '\n' ∈ (progress.summary setup).toList := by
    simp [summary, newline_mem_tallyLine]
  rw [closingTexts] at htext
  rw [List.mem_append, List.mem_pair] at htext
  rcases htext with htext | rfl | rfl
  · split at htext
    · exact absurd htext List.not_mem_nil
    · rw [List.mem_singleton.mp htext]
      simp
  · simp
  · exact hsummary

/-- Calls that only end a line or a report put no character of a step on the output. -/
theorem countP_wroteGlyph_eq_zero (styles : Styles) {made : List Sink.Call} {texts : List String}
    (hmade : ∀ text failure, Sink.Call.write text failure ∈ made → text ∈ texts)
    (htexts : ∀ text ∈ texts, ' ' ∈ text.toList ∨ '\n' ∈ text.toList) :
    made.countP (wroteGlyph styles) = 0 := by
  rw [List.countP_eq_zero]
  intro call hcall
  cases call with
  | flush failure => simp [wroteGlyph]
  | write text failure =>
      simp [wroteGlyph_eq_false styles (htexts text (hmade text failure hcall))]

/-- An event is handled while the calls are noted: behind the calls so far stand those that were
made for it, and the report and the failure are as if they were not noted. The characters among
the new calls come to the `printed` ones. -/
structure HandledNoted (styles : Styles) (calls : List Sink.Call) (printed : Nat)
    (noted : Handled (Progress (ω × List Sink.Call))) (handled : Handled (Progress ω))
    (made : List Sink.Call) : Prop where
  image : noted.subscriber.mapOutput Prod.fst = handled.subscriber
  failure : noted.failure = handled.failure
  calls : noted.subscriber.output.2 = calls ++ made
  attempt : Sink.Attempt made handled.failure
  stepsPrinted : handled.subscriber.stepsPrinted = printed + made.countP (wroteGlyph styles)

/-- A handler that does not use its sink makes no calls. -/
theorem HandledNoted.of_silent {styles : Styles} {calls : List Sink.Call} {printed : Nat}
    {p : Progress (ω × List Sink.Call)} {q : Progress ω} {log log' : List LogEntry}
    (himage : p.mapOutput Prod.fst = q) (hcalls : p.output.2 = calls)
    (hprinted : q.stepsPrinted = printed) :
    HandledNoted styles calls printed { subscriber := p, log := log }
      { subscriber := q, log := log' } [] where
  image := himage
  failure := rfl
  calls := by rw [hcalls, List.append_nil]
  attempt := .nil
  stepsPrinted := hprinted

/-- A character counts exactly if it was written. -/
theorem printGlyph_noted (setup : ProgressSetup ω) (progress : Progress (ω × List Sink.Call))
    (outcome : Outcome) :
    ∃ made, HandledNoted setup.styles progress.output.2 progress.stepsPrinted
      (progress.printGlyph (setup.writingTo setup.sink.noted) outcome)
      ((progress.mapOutput Prod.fst).printGlyph setup outcome) made := by
  let glyph := setup.styles.outcome outcome outcome.glyph.toString
  obtain ⟨after, failure, hwrite⟩ : ∃ after failure,
      setup.sink.write progress.output.1 glyph = (after, failure) := ⟨_, _, rfl⟩
  cases failure with
  | some failure =>
      refine ⟨[.write glyph (some failure)], ?_⟩
      simp only [printGlyph, ProgressSetup.writingTo, mapOutput, Sink.noted_write, hwrite, glyph]
      exact ⟨rfl, rfl, rfl, .single (.write glyph (some failure)), rfl⟩
  | none =>
      obtain ⟨made, hmade, hattempt, htexts⟩ := setup.sink.noted_writeAllAndFlush
        (lineEnd (progress.stepsPrinted + 1)) (after, progress.output.2 ++ [.write glyph none])
      -- The end of the line may fail behind the character, but it is none itself.
      have hnone : made.countP (wroteGlyph setup.styles) = 0 :=
        countP_wroteGlyph_eq_zero setup.styles htexts fun _ => mem_of_mem_lineEnd
      refine ⟨.write glyph none :: made, ?_⟩
      simp only [printGlyph, ProgressSetup.writingTo, mapOutput, Sink.noted_write, hwrite, glyph,
        hmade]
      refine ⟨rfl, rfl, by simp, .cons rfl hattempt, ?_⟩
      rw [List.countP_cons_of_pos (wroteGlyph_of_outcome setup.styles outcome), hnone]

/-- Ending a report puts no character of a step on the output. -/
theorem finishRun_noted (setup : ProgressSetup ω) (progress : Progress (ω × List Sink.Call))
    (event : Event) :
    ∃ made, HandledNoted setup.styles progress.output.2 progress.stepsPrinted
      (finishRun (setup.writingTo setup.sink.noted) progress event)
      (finishRun setup (progress.mapOutput Prod.fst) event) made := by
  unfold finishRun
  cases hfinished : progress.finished with
  | true =>
      refine ⟨[], ?_⟩
      simp only [finished_mapOutput, hfinished, if_true]
      exact .of_silent rfl rfl rfl
  | false =>
      let ended := { progress with finished := true, timer := progress.timer.stop }
      obtain ⟨made, hmade, hattempt, htexts⟩ := setup.sink.noted_writeAllAndFlush
        (ended.closingTexts (setup.writingTo setup.sink.noted)) progress.output
      have hnone : made.countP (wroteGlyph setup.styles) = 0 :=
        countP_wroteGlyph_eq_zero setup.styles htexts fun _ htext =>
          Or.inr (newline_mem_of_mem_closingTexts htext)
      refine ⟨made, ?_⟩
      simp only [finished_mapOutput, hfinished, Bool.false_eq_true, if_false]
      refine ⟨?_, ?_, ?_, hattempt, ?_⟩
      · exact congrArg (fun written : (ω × List Sink.Call) × Option String =>
          { ended.mapOutput Prod.fst with output := written.1.1 }) hmade
      · exact congrArg Prod.snd hmade
      · exact congrArg (fun written : (ω × List Sink.Call) × Option String => written.1.2) hmade
      · rw [hnone]
        rfl

/-- Counting a scenario makes no calls. -/
theorem collectScenario_noted (setup : ProgressSetup ω)
    (progress : Progress (ω × List Sink.Call)) (event : Event) :
    HandledNoted setup.styles progress.output.2 progress.stepsPrinted
      (collectScenario (setup.writingTo setup.sink.noted) progress event)
      (collectScenario setup (progress.mapOutput Prod.fst) event) [] := by
  unfold collectScenario
  cases hfinished : progress.finished with
  | true =>
      simp only [finished_mapOutput, hfinished, if_true]
      exact .of_silent rfl rfl rfl
  | false =>
      simp only [finished_mapOutput, hfinished, Bool.false_eq_true, if_false]
      cases event <;> exact .of_silent rfl rfl rfl

theorem printStep_noted (setup : ProgressSetup ω) (progress : Progress (ω × List Sink.Call))
    (event : Event) :
    ∃ made, HandledNoted setup.styles progress.output.2 progress.stepsPrinted
      (printStep (setup.writingTo setup.sink.noted) progress event)
      (printStep setup (progress.mapOutput Prod.fst) event) made := by
  unfold printStep
  cases hfinished : progress.finished with
  | true =>
      refine ⟨[], ?_⟩
      simp only [finished_mapOutput, hfinished, if_true]
      exact .of_silent rfl rfl rfl
  | false =>
      simp only [finished_mapOutput, hfinished, Bool.false_eq_true, if_false]
      cases event with
      | stepFinished step =>
          exact printGlyph_noted setup
            (progress.recordStep (setup.writingTo setup.sink.noted) (.stepFinished step) step)
            step.outcome
      | _ => exact ⟨[], .of_silent rfl rfl rfl⟩

/-- The number of characters that a report has counted when it handles an event. -/
def printedBefore (progress : Progress ω) (event : Event) : Nat :=
  if event = .runStarted then 0 else progress.stepsPrinted

/-- Noting the calls changes nothing else for any event. -/
theorem handler_noted (setup : ProgressSetup ω) (progress : Progress (ω × List Sink.Call))
    (event : Event) :
    ∃ made, HandledNoted setup.styles progress.output.2 (progress.printedBefore event)
      (handler (setup.writingTo setup.sink.noted) event.kind progress event)
      (handler setup event.kind (progress.mapOutput Prod.fst) event) made := by
  cases event with
  | runStarted => exact ⟨[], .of_silent rfl rfl rfl⟩
  | runFinished => exact finishRun_noted setup progress .runFinished
  | scenarioFinished scenario => exact ⟨[], collectScenario_noted setup progress _⟩
  | exampleFinished scenario => exact ⟨[], collectScenario_noted setup progress _⟩
  | stepFinished step => exact printStep_noted setup progress (.stepFinished step)

/-! Whole runs. -/

/-- A report of some events that notes the calls of its sink behind the output. -/
def notedRun (setup : ProgressSetup ω) (output : ω) (events : List Event) :
    Progress (ω × List Sink.Call) :=
  ((dispatcher (setup.writingTo setup.sink.noted) (output, [])).deliverAll events).subscriber

/-- The calls that a new report makes of its sink while events are delivered. -/
def calls (setup : ProgressSetup ω) (output : ω) (events : List Event) : List Sink.Call :=
  (notedRun setup output events).output.2

def reached (setup : ProgressSetup ω) (output : ω) (events : List Event) : Progress ω :=
  ((dispatcher setup output).deliverAll events).subscriber

theorem reached_concat (setup : ProgressSetup ω) (output : ω) (events : List Event)
    (event : Event) :
    reached setup output (events ++ [event]) = (reached setup output events).after setup event := by
  simp only [reached, dispatcher, deliverAll_subscriber, List.foldl_append, List.foldl_cons,
    List.foldl_nil]

theorem notedRun_concat (setup : ProgressSetup ω) (output : ω) (events : List Event)
    (event : Event) :
    notedRun setup output (events ++ [event]) =
      (notedRun setup output events).after (setup.writingTo setup.sink.noted) event :=
  reached_concat (setup.writingTo setup.sink.noted) (output, []) events event

/-- The report whose calls are noted is the report, but for the calls. -/
theorem mapOutput_notedRun (setup : ProgressSetup ω) (output : ω) (events : List Event) :
    (notedRun setup output events).mapOutput Prod.fst = reached setup output events := by
  induction events using List.reverseRecOn with
  | nil => rfl
  | append_singleton events event ih =>
      obtain ⟨made, h⟩ := handler_noted setup (notedRun setup output events) event
      rw [notedRun_concat, reached_concat, ← ih]
      exact h.image

theorem calls_concat (setup : ProgressSetup ω) (output : ω) (events : List Event)
    (event : Event) :
    ∃ made, calls setup output (events ++ [event]) = calls setup output events ++ made ∧
      Sink.Attempt made
        (handler setup event.kind (reached setup output events) event).failure ∧
      (reached setup output (events ++ [event])).stepsPrinted =
        (reached setup output events).printedBefore event +
          made.countP (wroteGlyph setup.styles) := by
  obtain ⟨made, h⟩ := handler_noted setup (notedRun setup output events) event
  rw [mapOutput_notedRun] at h
  refine ⟨made, ?_, h.attempt, ?_⟩
  · rw [calls, notedRun_concat]
    exact h.calls
  · rw [reached_concat, ← mapOutput_notedRun]
    rw [← mapOutput_notedRun] at h
    exact h.stepsPrinted

/-- As many characters are counted as were written since the last start. -/
theorem stepsPrinted_eq_countP (setup : ProgressSetup ω) (output : ω) (events : List Event) :
    ∃ later, calls setup output events = calls setup output (upToStart events) ++ later ∧
      (reached setup output events).stepsPrinted = later.countP (wroteGlyph setup.styles) := by
  induction events using List.reverseRecOn with
  | nil => exact ⟨[], rfl, rfl⟩
  | append_singleton events event ih =>
      obtain ⟨made, hcalls, hattempt, hprinted⟩ := calls_concat setup output events event
      rw [upToStart_concat]
      by_cases hstart : event = .runStarted
      · rw [if_pos hstart]
        refine ⟨[], (List.append_nil _).symm, ?_⟩
        rw [reached_concat, hstart]
        rfl
      · obtain ⟨later, hlater, hcount⟩ := ih
        rw [if_neg hstart]
        refine ⟨later ++ made, ?_, ?_⟩
        · rw [hcalls, hlater, List.append_assoc]
        · rw [hprinted, printedBefore, if_neg hstart, hcount, List.countP_append]

theorem printGlyph_le (setup : ProgressSetup ω) (progress : Progress ω) (outcome : Outcome) :
    (progress.printGlyph setup outcome).subscriber.stepsPrinted ≤ progress.stepsPrinted + 1 ∧
      (progress.printGlyph setup outcome).subscriber.statistics = progress.statistics := by
  unfold printGlyph
  split
  · exact ⟨Nat.le_succ _, rfl⟩
  · exact ⟨Nat.le_refl _, rfl⟩

/-- A step is counted before its character is written. -/
theorem stepsPrinted_after_le (setup : ProgressSetup ω) {progress : Progress ω}
    (h : progress.stepsPrinted ≤ progress.statistics.steps.total) (event : Event) :
    (progress.after setup event).stepsPrinted ≤
      (progress.after setup event).statistics.steps.total := by
  cases hfinished : progress.finished with
  | true =>
      by_cases hstart : event = .runStarted
      · rw [hstart]
        exact Nat.zero_le _
      · rwa [after_of_finished hfinished hstart]
  | false =>
      cases event with
      | runStarted => exact Nat.zero_le _
      | runFinished =>
          rw [after_runFinished hfinished]
          exact h
      | scenarioFinished scenario =>
          rw [after_scenarioFinished hfinished]
          simpa only [recordScenario, steps_countTeardown] using h
      | exampleFinished scenario =>
          rw [after_exampleFinished hfinished]
          simpa only [recordScenario, steps_countTeardown] using h
      | stepFinished step =>
          let recorded := progress.recordStep setup (.stepFinished step) step
          have hafter : progress.after setup (.stepFinished step) =
              (recorded.printGlyph setup step.outcome).subscriber := by
            simp only [after, handler, Event.kind, printStep, hfinished, Bool.false_eq_true,
              if_false, recorded]
          have htotal : recorded.statistics.steps.total =
              progress.statistics.steps.total + 1 := by
            simp only [recorded, recordStep, steps_countTeardown, Tally.total_record]
          obtain ⟨hprinted, hstatistics⟩ := printGlyph_le setup recorded step.outcome
          rw [hafter, hstatistics, htotal]
          exact hprinted.trans (Nat.succ_le_succ h)

theorem stepsPrinted_le_total (setup : ProgressSetup ω) (output : ω) (events : List Event) :
    (reached setup output events).stepsPrinted ≤
      (reached setup output events).statistics.steps.total := by
  induction events using List.reverseRecOn with
  | nil => exact Nat.zero_le _
  | append_singleton events event ih =>
      rw [reached_concat]
      exact stepsPrinted_after_le setup ih event

/-- Behind the end of a run no calls are made until the next run is started. -/
theorem calls_append_of_finished {setup : ProgressSetup ω} {output : ω}
    {events further : List Event} (hfinished : (notedRun setup output events).finished = true)
    (hfurther : Event.runStarted ∉ further) :
    calls setup output (events ++ further) = calls setup output events := by
  have hsame : notedRun setup output (events ++ further) = notedRun setup output events := by
    simp only [notedRun, dispatcher, deliverAll_subscriber] at hfinished ⊢
    rw [List.foldl_append, foldl_after_of_finished hfinished hfurther]
  rw [calls, hsame, calls]

/-- Two reports differ in their outputs, their timers and the characters they count at most. -/
structure Agrees (p : Progress ω) (q : Progress ω') : Prop where
  finished : p.finished = q.finished
  statistics : p.statistics = q.statistics
  failedScenarios : p.failedScenarios = q.failedScenarios
  failedSteps : p.failedSteps = q.failedSteps
  pendingSteps : p.pendingSteps = q.pendingSteps

/-- Reports that keep the same events agree, whatever their outputs are. -/
theorem Keeps.agrees {setup : ProgressSetup ω} {sink : Sink ω'} {p : Progress ω}
    {q : Progress ω'} {events : List Event} (hp : Keeps setup p events)
    (hq : Keeps (setup.writingTo sink) q events) (hfinished : p.finished = q.finished) :
    p.Agrees q where
  finished := hfinished
  statistics := by
    have hsteps := Tally.ext_get fun outcome =>
      (hp.steps outcome).trans (hq.steps outcome).symm
    have hscenarios := Tally.ext_get fun outcome =>
      (hp.scenarios outcome).trans (hq.scenarios outcome).symm
    have hteardowns := hp.failedTeardowns.trans hq.failedTeardowns.symm
    exact congr (congrArg₂ Statistics.mk hsteps hscenarios) hteardowns
  failedScenarios := hp.failedScenarios.trans hq.failedScenarios.symm
  failedSteps := hp.failedSteps.trans hq.failedSteps.symm
  pendingSteps := hp.pendingSteps.trans hq.pendingSteps.symm

theorem agrees_writingTo (setup : ProgressSetup ω) (sink : Sink ω') (output : ω) (output' : ω')
    (events : List Event) :
    (reached setup output events).Agrees (reached (setup.writingTo sink) output' events) := by
  obtain ⟨hkeeps, hfinished⟩ := keeps_currentRun setup output events
  obtain ⟨hkeeps', hfinished'⟩ := keeps_currentRun (setup.writingTo sink) output' events
  simp only [reached, dispatcher, deliverAll_subscriber]
  exact hkeeps.agrees hkeeps' (hfinished.trans hfinished'.symm)

/-- What the calls that a report makes of its sink tell about the report. -/
structure Accounted (setup : ProgressSetup ω) (output : ω) (events : List Event) : Prop where
  /-- The calls are those of the report. -/
  noted : (notedRun setup output events).mapOutput Prod.fst = reached setup output events
  /-- The characters that count are those that were written since the last start. -/
  printed : ∃ later, calls setup output events = calls setup output (upToStart events) ++ later ∧
    (reached setup output events).stepsPrinted = later.countP (wroteGlyph setup.styles)
  /-- No more characters are written than steps are counted. -/
  printed_le : (reached setup output events).stepsPrinted ≤
    (reached setup output events).statistics.steps.total
  /-- The first call that fails is the last one for an event, and its failure is returned. -/
  result : ∀ event, ∃ made,
    calls setup output (events ++ [event]) = calls setup output events ++ made ∧
      (∀ call ∈ made.dropLast, call.failure? = none) ∧
      (((dispatcher setup output).deliverAll events).deliver event).result =
        resultOf (made.getLast?.bind Sink.Call.failure?)
  /-- Whatever becomes of the summary, nothing is written behind it before the next start. -/
  closed : ∀ further, Event.runStarted ∉ further →
    calls setup output (events ++ .runFinished :: further) =
      calls setup output (events ++ [.runFinished])

theorem accounted (setup : ProgressSetup ω) (output : ω) (events : List Event) :
    Accounted setup output events where
  noted := mapOutput_notedRun setup output events
  printed := stepsPrinted_eq_countP setup output events
  printed_le := stepsPrinted_le_total setup output events
  result event := by
    obtain ⟨made, hcalls, hattempt, _⟩ := calls_concat setup output events event
    refine ⟨made, hcalls, hattempt.succeeded, ?_⟩
    have hdispatcher : (dispatcher setup output).deliverAll events =
        ⟨subscriptions setup, reached setup output events⟩ := by
      simp only [reached, dispatcher, deliverAll_eq]
    rw [hdispatcher, deliver_eq, hattempt.failure_eq]
  closed further hfurther := by
    have hfinished : (notedRun setup output (events ++ [.runFinished])).finished = true := by
      rw [notedRun_concat]
      exact finished_after_runFinished _ _
    rw [List.append_cons]
    exact calls_append_of_finished hfinished hfurther

/-- Two reports whose outputs fail in different ways, at any of their calls, have the same
counters and records and are finished alike behind every sequence of events. Each of them counts
the characters that were written in the current run, and starts a summary once. -/
theorem failing_outputs_agree (setup : ProgressSetup ω) (sink : Sink ω') (output : ω)
    (output' : ω') (events : List Event) :
    (reached setup output events).Agrees (reached (setup.writingTo sink) output' events) ∧
      Accounted setup output events ∧ Accounted (setup.writingTo sink) output' events :=
  ⟨agrees_writingTo setup sink output output' events, accounted setup output events,
    accounted (setup.writingTo sink) output' events⟩

/-- Where one character fits, the second one and the summary are lost, and the summary is not
tried again. The report counts the same as one that loses nothing. -/
theorem failing_outputs_agree_limited :
    let setup : ProgressSetup LimitedText := { sink := LimitedText.sink, showsTimer := false }
    let limited : LimitedText := { room := some 1 }
    let steps := [passingStep, passingStep]
    let report := reached setup limited (steps ++ [.runFinished])
    let complete := reached (setup.writingTo .collecting) "" (steps ++ [.runFinished])
    calls setup limited (steps ++ [.runFinished]) =
        [.write "." none, .flush none, .write "." (some "sink is full"),
          .write "\n" (some "sink is full")] ∧
      report.stepsPrinted = 1 ∧ 1 ≤ report.statistics.steps.total ∧
      report.statistics = complete.statistics ∧
      (((dispatcher setup limited).deliverAll steps).deliver .runFinished).result =
        .error (.output "sink is full") ∧
      calls setup limited (steps ++ [.runFinished, .runFinished]) =
        calls setup limited (steps ++ [.runFinished]) := by
  intro setup limited steps report complete
  have hcalls : calls setup limited (steps ++ [.runFinished]) =
      [.write "." none, .flush none, .write "." (some "sink is full"),
        .write "\n" (some "sink is full")] := by
    decide +kernel
  have hbefore : calls setup limited steps =
      [.write "." none, .flush none, .write "." (some "sink is full")] := by
    decide +kernel
  obtain ⟨hagrees, hlimited, -⟩ :=
    failing_outputs_agree setup .collecting limited "" (steps ++ [.runFinished])
  obtain ⟨-, hsteps, -⟩ := failing_outputs_agree setup .collecting limited "" steps
  have hprinted : report.stepsPrinted = 1 := by
    obtain ⟨later, hlater, hprinted⟩ := hlimited.printed
    have hnone : calls setup limited (upToStart (steps ++ [.runFinished])) = [] := rfl
    rw [hnone, List.nil_append, hcalls] at hlater
    rw [hprinted, ← hlater]
    decide
  refine ⟨hcalls, hprinted, hprinted ▸ hlimited.printed_le, hagrees.statistics, ?_,
    hsteps.closed [.runFinished] (by simp)⟩
  obtain ⟨made, hmade, -, hresult⟩ := hsteps.result .runFinished
  rw [hcalls, hbefore] at hmade
  obtain rfl : [.write "\n" (some "sink is full")] = made := by simpa using hmade
  exact hresult

end Progress

end Stepwise
