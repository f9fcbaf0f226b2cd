import Stepwise.Report.Catalogue
import Stepwise.Report.Records
import Stepwise.Report.Statistics
import Stepwise.Report.Style
import Stepwise.Text.Lines

/-!
# Sections of a report

The texts that a report ends with: the failed steps, the pending steps, the numbers of
scenarios and steps, and the number of failed cleanups. A section about nothing is
empty.
-/

namespace Stepwise.Report

def title (styles : Styles) (outcome : Outcome) (text : String) : String :=
  "--- " ++ styles.outcome outcome text ++ "\n\n"

/-- The lines of a message, each one indented and colored. An empty message has none. -/
def indented (styles : Styles) (outcome : Outcome) (indent message : String) : String :=
  if message.isEmpty then ""
  else
    String.join
      ((Text.lines message).map fun line => indent ++ styles.outcome outcome line ++ "\n")

/-- What a definition printed, line by line. -/
def capturedOutput : Option String → String
  | none => ""
  | some output =>
      String.join ((Text.lines output).map fun line => "        │ " ++ line ++ "\n")

/-- The line that tells the scenario of a failed step. A scenario that was never
finished has none. -/
def scenarioLine (styles : Styles) (scenarios : List String) (position : Nat) : String :=
  match scenarios[position]? with
  | some scenario => "    " ++ styles.outcome .failed scenario ++ "\n"
  | none => ""

/-- A failed step below its scenario, with its output and its error. -/
def failureEntry (styles : Styles) (scenarios : List String) (failure : FailureRecord) :
    String :=
  scenarioLine styles scenarios failure.scenario ++
    "      " ++ styles.outcome .failed failure.description ++ " " ++
    styles.comment ("# " ++ failure.location) ++ "\n" ++
    capturedOutput failure.output ++
    indented styles .failed "        " failure.message ++ "\n"

def failedSteps (styles : Styles) (catalogue : Catalogue) (failures : List FailureRecord)
    (scenarios : List String) : String :=
  if failures.isEmpty then ""
  else
    title styles .failed (catalogue.message "failed_steps_title") ++
      String.join (failures.map (failureEntry styles scenarios))

def pendingEntry (styles : Styles) (pending : PendingRecord) : String :=
  "    " ++ styles.outcome .pending pending.description ++ " " ++
    styles.comment ("# " ++ pending.location) ++ "\n" ++
    indented styles .pending "      " pending.message ++ "\n"

def pendingSteps (styles : Styles) (catalogue : Catalogue) (pending : List PendingRecord) :
    String :=
  if pending.isEmpty then ""
  else
    title styles .pending (catalogue.message "pending_steps_title") ++
      String.join (pending.map (pendingEntry styles))

/-- The numbers of the outcomes that there are, each in its color. -/
def tallyDetails (styles : Styles) (catalogue : Catalogue) (tally : Tally) : String :=
  ", ".intercalate
    ((tally.toList.filter fun entry => 0 < entry.2).map fun entry =>
      styles.outcome entry.1 (catalogue.counted (Catalogue.keyOf entry.1) entry.2))

/-- A tally in one line: its total, for which there is a key, and its details. -/
def tallyLine (styles : Styles) (catalogue : Catalogue) (totalKey : String) (tally : Tally) :
    String :=
  let details := tallyDetails styles catalogue tally
  let total := catalogue.counted totalKey tally.total
  if details.isEmpty then total ++ "\n" else total ++ " (" ++ details ++ ")\n"

def failedTeardowns (styles : Styles) (catalogue : Catalogue) (count : Nat) : String :=
  if count = 0 then ""
  else styles.outcome .failed (catalogue.counted "failed_teardowns_count" count) ++ "\n"

end Stepwise.Report
