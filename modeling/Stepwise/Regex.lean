import Stepwise.Regex.Footprint
import Stepwise.Regex.Parse
import Stepwise.Regex.Resolve
import Stepwise.Regex.Search

/-!
# Regular expressions

An expression is compiled from its text and then searched for in other texts. Of all
matches the leftmost one counts, and of those the one that the expression prefers.
-/

namespace Stepwise

/-- A compiled regular expression: its program and the names of its groups in the
order of their numbers. -/
structure Regex where
  program : Regex.Program
  names : List (Option String)

namespace Regex

/-- The most bytes that an automaton of an expression may take. -/
def sizeLimit : Nat := 10 * 1024 * 1024

/-- Compiles an expression, of which the automata may have to fit into a number of
bytes. -/
def compile (limit : Option Nat) (source : List Char) : Except Fault Regex := do
  let (tree, names) ← parse source
  let expression ← tree.expression
  if !limit.all expression.fitsInto then throw .tooLarge
  return ⟨expression.program, names⟩

/-- The place that was last remembered under a number. -/
def lastMark? (marks : List Mark) (slot : Nat) : Option Nat :=
  (marks.find? (·.slot = slot)).map (·.place)

/-- The part of a text that a group matched last, if it took part in the match. -/
def groupText? (text : List Char) (marks : List Mark) (index : Nat) : Option (List Char) :=
  match lastMark? marks (2 * index), lastMark? marks (2 * index + 1) with
  | some first, some last => some ((text.drop first).take (last - first))
  | _, _ => none

/-- The names and the texts of the groups in the order of their numbers, if the
expression matches somewhere in the text. -/
def captures? (regex : Regex) (text : List Char) :
    Option (List (Option String × Option (List Char))) :=
  (search regex.program text.toArray).map fun t =>
    regex.names.zipIdx.map fun (name, i) => (name, groupText? text t.marks (i + 1))

/-- Whether the expression matches somewhere in a text. -/
def isMatch (regex : Regex) (text : List Char) : Bool :=
  (search regex.program text.toArray).isSome

end Regex

end Stepwise
