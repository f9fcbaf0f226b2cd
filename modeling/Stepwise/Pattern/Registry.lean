import Stepwise.Pattern.Basic
import Stepwise.Pattern.Delimited
import Stepwise.Pattern.Matcher
import Stepwise.Pattern.Turnip

/-!
# The registry of notations

A registry asks its notations in order: the first one that generates a kind or accepts a
pattern wins. Patterns that were compiled are remembered with their matchers.
-/

namespace Stepwise

/-- Notations in order and the patterns compiled so far with their matchers. -/
structure Registry where
  notations : List Notation := []
  compiled : List (String × Matcher) := []

namespace Registry

def standard : Registry where
  notations := [turnipNotation, delimitedNotation]

/-- A registry with one more notation behind the others. -/
def withNotation (registry : Registry) (added : Notation) : Registry :=
  { registry with notations := registry.notations ++ [added] }

def generator? (registry : Registry) (kind : Option String) : Option Notation :=
  registry.notations.find? (·.generates kind)

def notation? (registry : Registry) (pattern : String) : Option Notation :=
  registry.notations.find? (·.accepts pattern)

def supports (registry : Registry) (pattern : String) : Bool :=
  registry.notations.any (·.accepts pattern)

def generate (registry : Registry) (kind : Option String) (text : String) :
    Logged (Except PatternError Pattern) :=
  match registry.generator? kind with
  | none => { value := .error (.unsupportedKind kind), log := [] }
  | some generator =>
      { value := .ok (generator.generate text)
        log := [.generatingPattern kind generator.name] }

/-- Compiles a pattern by a notation, maybe within a number of bytes. -/
def compileBy (limit : Option Nat) (used : Notation) (pattern : String) : Logged Matcher :=
  let result := Matcher.ofSourceLoggedWithin limit (used.toRegex pattern)
  { value := result.value
    log := used.remarks pattern ++ result.log ++
      [.compiledPattern pattern used.name result.value.source] }

/-- The matcher of a pattern that was compiled before. -/
def lookup? (registry : Registry) (pattern : String) : Option Matcher :=
  (registry.compiled.find? (·.1 = pattern)).map (·.2)

/-- Compiles a pattern unless it was compiled before, maybe within a number of bytes. A
pattern without a notation is not remembered. -/
def compileWithin (registry : Registry) (limit : Option Nat) (pattern : String) :
    Logged (Registry × Except PatternError Matcher) :=
  match registry.lookup? pattern with
  | some m => { value := (registry, .ok m), log := [] }
  | none =>
      match registry.notation? pattern with
      | none => { value := (registry, .error (.unsupportedPattern pattern)), log := [] }
      | some used =>
          let result := compileBy limit used pattern
          { value :=
              ({ registry with compiled := registry.compiled ++ [(pattern, result.value)] },
                .ok result.value)
            log := result.log }

/-- Compiles a pattern of usual size unless it was compiled before. -/
def compile (registry : Registry) (pattern : String) :
    Logged (Registry × Except PatternError Matcher) :=
  registry.compileWithin (some Regex.sizeLimit) pattern

/-- A description of a registry: the names of its notations and the number of patterns
compiled. -/
def text (registry : Registry) : String :=
  "Transformer \x7b policies: [" ++
    ", ".intercalate (registry.notations.map (·.name)) ++
    "], cached: " ++ toString registry.compiled.length ++ " \x7d"

theorem supports_eq_isSome (registry : Registry) (pattern : String) :
    registry.supports pattern = (registry.notation? pattern).isSome := by
  rw [Bool.eq_iff_iff, supports, notation?, List.find?_isSome]
  simp

end Registry

end Stepwise
