/-!
# Outcomes

How a step or a scenario ended. The order of the outcomes is the one in which they
are shown.
-/

namespace Stepwise

/-- How a step or a scenario ended. -/
inductive Outcome
  /-- It was executed without errors. -/
  | passed
  /-- It failed, or no definition could be selected. -/
  | failed
  /-- No definition matches. -/
  | undefined
  /-- A definition matches, but it is not written yet. -/
  | pending
  /-- It was not executed because of what happened before. -/
  | skipped
deriving DecidableEq, Repr

namespace Outcome

/-- All outcomes in display order. -/
def all : List Outcome :=
  [passed, failed, undefined, pending, skipped]

/-- The position of an outcome in display order. -/
def index : Outcome → Nat
  | passed => 0
  | failed => 1
  | undefined => 2
  | pending => 3
  | skipped => 4

def glyph : Outcome → Char
  | passed => '.'
  | failed => 'F'
  | undefined => 'U'
  | pending => 'P'
  | skipped => '-'

/-- The name of an outcome, of which message keys are built. -/
def name : Outcome → String
  | passed => "passed"
  | failed => "failed"
  | undefined => "undefined"
  | pending => "pending"
  | skipped => "skipped"

instance : LE Outcome :=
  ⟨fun a b => a.index ≤ b.index⟩

instance : DecidableLE Outcome :=
  fun a b => inferInstanceAs (Decidable (a.index ≤ b.index))

theorem mem_all (o : Outcome) : o ∈ all := by
  cases o <;> decide

theorem name_injective {a b : Outcome} (h : a.name = b.name) : a = b := by
  cases a <;> cases b <;> first | rfl | exact absurd h (by decide)

theorem glyph_injective {a b : Outcome} (h : a.glyph = b.glyph) : a = b := by
  cases a <;> cases b <;> first | rfl | exact absurd h (by decide)

end Outcome

end Stepwise
