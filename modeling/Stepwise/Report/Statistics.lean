import Stepwise.Run.Outcome

/-!
# Statistics of a run

How many steps and scenarios ended with each outcome, and how many cleanups failed.
-/

namespace Stepwise

/-- A number for each outcome. -/
structure Tally where
  passed : Nat := 0
  failed : Nat := 0
  undefined : Nat := 0
  pending : Nat := 0
  skipped : Nat := 0
deriving DecidableEq, Repr

namespace Tally

def get (tally : Tally) : Outcome → Nat
  | .passed => tally.passed
  | .failed => tally.failed
  | .undefined => tally.undefined
  | .pending => tally.pending
  | .skipped => tally.skipped

def record (tally : Tally) : Outcome → Tally
  | .passed => { tally with passed := tally.passed + 1 }
  | .failed => { tally with failed := tally.failed + 1 }
  | .undefined => { tally with undefined := tally.undefined + 1 }
  | .pending => { tally with pending := tally.pending + 1 }
  | .skipped => { tally with skipped := tally.skipped + 1 }

/-- The outcomes in display order, each with its number. -/
def toList (tally : Tally) : List (Outcome × Nat) :=
  Outcome.all.map fun outcome => (outcome, tally.get outcome)

def total (tally : Tally) : Nat :=
  tally.toList.foldr (fun entry sum => entry.2 + sum) 0

/-- Counting an outcome changes the number of that outcome only. -/
theorem get_record (tally : Tally) (counted outcome : Outcome) :
    (tally.record counted).get outcome =
      tally.get outcome + if counted = outcome then 1 else 0 := by
  cases counted <;> cases outcome <;> rfl

theorem total_record (tally : Tally) (outcome : Outcome) :
    (tally.record outcome).total = tally.total + 1 := by
  cases outcome <;> simp [total, toList, Outcome.all, get, record] <;> omega

theorem ext_get {a b : Tally} (h : ∀ outcome, a.get outcome = b.get outcome) : a = b := by
  cases a
  cases b
  simp only [Tally.mk.injEq]
  exact ⟨h .passed, h .failed, h .undefined, h .pending, h .skipped⟩

end Tally

structure Statistics where
  steps : Tally := {}
  /-- Scenarios and the examples of scenario outlines. -/
  scenarios : Tally := {}
  /-- The steps and scenarios whose cleanup failed. -/
  failedTeardowns : Nat := 0
deriving DecidableEq, Repr

def Statistics.hasFailed (statistics : Statistics) : Bool :=
  0 < statistics.steps.failed || 0 < statistics.scenarios.failed ||
    0 < statistics.failedTeardowns

end Stepwise
