/-!
# Errors of steps

What went wrong when a definition was searched for or executed. These errors are part
of the events of a run; they never end it.
-/

namespace Stepwise

inductive StepError
  /-- No definition matches. -/
  | notFound
  /-- Several definitions match. -/
  | ambiguous (step : String) (count : Nat)
  /-- The definition is not written yet. -/
  | pending (text : String)
  /-- The definition panicked; the payload is missing if it is no text. -/
  | panic (payload : Option String)
  /-- The definition returned an error, which other errors may have caused. -/
  | returned (text : String) (causes : List String)
deriving DecidableEq, Repr

namespace StepError

def message : StepError → String
  | notFound => "Step doesn't match any function"
  | ambiguous step count =>
      "Step match is ambiguous: `" ++ step ++ "` matches " ++ toString count ++ " definitions"
  | pending text => if text.isEmpty then "TODO: write pending definition" else text
  | panic payload =>
      "Step panicked. Captured output: " ++
        payload.getD "(Could not resolve panic payload)"
  | returned text _ => text

/-- The errors that caused an error, the outermost first. -/
def causes : StepError → List String
  | returned _ causes => causes
  | _ => []

/-- An error as it is shown in a report; the causes are listed if `verbose` is set. -/
def present (verbose : Bool) (error : StepError) : String :=
  if verbose then
    error.causes.foldl (fun text cause => text ++ "\nCaused by: " ++ cause) error.message
  else error.message

end StepError

end Stepwise
