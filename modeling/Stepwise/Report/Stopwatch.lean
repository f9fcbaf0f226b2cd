/-!
# Stopwatches

A stopwatch is started when a run starts and stopped when it is finished. Only its
states are described here; how much time passed is up to a clock.
-/

namespace Stepwise

/-- The states of a stopwatch. -/
inductive Stopwatch.Phase
  | idle
  | running
  | stopped
deriving DecidableEq, Repr

def Stopwatch.Phase.name : Phase → String
  | idle => "idle"
  | running => "running"
  | stopped => "stopped"

/-- A stopwatch and how often it was told to start and to stop. -/
structure Stopwatch where
  phase : Stopwatch.Phase := .idle
  starts : Nat := 0
  stops : Nat := 0
deriving DecidableEq, Repr

namespace Stopwatch

/-- Starts to measure, maybe once more. -/
def start (watch : Stopwatch) : Stopwatch :=
  { watch with phase := .running, starts := watch.starts + 1 }

/-- Stops to measure. A stopwatch that does not run keeps its state. -/
def stop (watch : Stopwatch) : Stopwatch :=
  { watch with
    phase := if watch.phase = .running then .stopped else watch.phase
    stops := watch.stops + 1 }

/-- Whether the measured time stays as it is. -/
def isFrozen (watch : Stopwatch) : Bool :=
  watch.phase ≠ .running

/-- A description of a stopwatch: its state and the numbers of starts and stops. -/
def text (watch : Stopwatch) : String :=
  watch.phase.name ++ " " ++ toString watch.starts ++ "/" ++ toString watch.stops

/-- The measured time, which is nothing before the first start. Without a clock it is
not known afterwards. -/
def elapsed? (watch : Stopwatch) : Option String :=
  if watch.phase = .idle then some "0s" else none

end Stopwatch

end Stepwise
