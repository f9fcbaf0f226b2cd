import Stepwise.Run.Outcome

/-!
# Messages of reports

Reports look their messages up by keys, so that they can be written in any language.
-/

namespace Stepwise

/-- A catalogue of messages. A key without a message stands for itself. -/
structure Catalogue where
  /-- The message of a key. -/
  message : String → String
  /-- The message of a key for a number of things. -/
  counted : String → Nat → String

namespace Catalogue

def pluralEnding (count : Nat) : String :=
  if count = 1 then "" else "s"

def countedNoun (count : Nat) (noun : String) : String :=
  if count = 0 then "No " ++ noun ++ "s"
  else toString count ++ " " ++ noun ++ pluralEnding count

/-- The key of the number of steps or scenarios that ended with an outcome. -/
def keyOf (outcome : Outcome) : String :=
  outcome.name ++ "_count"

/-- The English messages. -/
def english : Catalogue where
  message key :=
    match key with
    | "failed_steps_title" => "Failed steps:"
    | "pending_steps_title" => "Pending steps:"
    | _ => key
  counted key count :=
    match key with
    | "scenarios_count" => countedNoun count "scenario"
    | "steps_count" => countedNoun count "step"
    | "failed_teardowns_count" =>
        toString count ++ " failed teardown" ++ pluralEnding count
    | _ =>
        match Outcome.all.find? fun outcome => keyOf outcome = key with
        | some outcome => toString count ++ " " ++ outcome.name
        | none => key

end Catalogue

end Stepwise
