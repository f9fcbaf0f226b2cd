import Stepwise.Log

/-!
# Patterns and their notations

A pattern is what a definition is registered with. It is written in some notation,
which decides which texts are patterns of it and which regular expression stands for
a pattern.
-/

namespace Stepwise

/-- A pattern generated from a step text. -/
structure Pattern where
  /-- A name for the definition of the step. -/
  name : String
  /-- The pattern as it is written. -/
  source : String
  /-- The number of arguments that the pattern takes. -/
  placeholders : Nat
deriving DecidableEq, Repr

inductive PatternError
  /-- No notation generates patterns of this kind; none stands for the default. -/
  | unsupportedKind (kind : Option String)
  /-- No notation has this pattern. -/
  | unsupportedPattern (pattern : String)
deriving DecidableEq, Repr

def PatternError.message : PatternError → String
  | unsupportedKind kind =>
      "Can not find policy for a pattern type `" ++ kind.getD "<default>" ++ "`"
  | unsupportedPattern pattern => "Can not find policy for a pattern `" ++ pattern ++ "`"

/-- A notation of patterns. -/
structure Notation where
  /-- The name of the notation in log entries. -/
  name : String
  /-- Whether patterns of a kind are generated in this notation; none stands for the
  default. -/
  generates : Option String → Bool
  /-- Generates a pattern for a step text, with its literals as arguments. -/
  generate : String → Pattern
  /-- Whether a text is a pattern in this notation. -/
  accepts : String → Bool
  /-- The regular expression of a pattern. A malformed pattern has one, too, which does
  not compile or does not match. -/
  toRegex : String → String
  /-- The modifiers of a pattern that change nothing, if there are any. -/
  ignored : String → Option String := fun _ => none

/-- What is logged when a pattern is turned into a regular expression. -/
def Notation.remarks (used : Notation) (pattern : String) : List LogEntry :=
  (used.ignored pattern).toList.map (.ignoredModifiers pattern)

end Stepwise
