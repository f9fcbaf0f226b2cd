import Stepwise.Log
import Stepwise.Regex

/-!
# Matchers

A matcher is what step texts are matched against. A text that is no regular expression
makes a degraded matcher, which matches nothing.
-/

namespace Stepwise

/-- A regular expression as it is written and as it is compiled. -/
structure Matcher where
  source : String
  /-- It is missing if the matcher is degraded. -/
  regex : Option Regex

namespace Matcher

/-- Compiles an expression to a matcher, which is degraded if it does not compile or does
not fit into a number of bytes. -/
def ofSourceWithin (limit : Option Nat) (source : String) : Matcher where
  source := source
  regex := (Regex.compile limit source.toList).toOption

/-- Compiles an expression of usual size to a matcher. -/
def ofSource (source : String) : Matcher :=
  ofSourceWithin (some Regex.sizeLimit) source

/-- A matcher that matches nothing, whatever its source. -/
def never (source : String) : Matcher :=
  ⟨source, none⟩

/-- Whether a matcher matches nothing because its source does not compile. -/
def isDegraded (m : Matcher) : Bool :=
  m.regex.isNone

/-- Compiles an expression to a matcher, maybe within a number of bytes; a degraded one is
logged. -/
def ofSourceLoggedWithin (limit : Option Nat) (source : String) : Logged Matcher :=
  let m := ofSourceWithin limit source
  ⟨m, if m.isDegraded then [.uncompilablePattern source] else []⟩

/-- Compiles an expression of usual size to a matcher; a degraded one is logged. -/
def ofSourceLogged (source : String) : Logged Matcher :=
  ofSourceLoggedWithin (some Regex.sizeLimit) source

def isMatch (m : Matcher) (text : String) : Bool :=
  m.regex.any (·.isMatch text.toList)

/-- The name of the argument that a group captures. What follows a dot in the name of
a group is no part of it; a group without a name is called by its number. -/
def argumentName (name : Option String) (index : Nat) : String :=
  match name with
  | some name => String.ofList (name.toList.takeWhile (· ≠ '.'))
  | none => toString index

/-- Adds an argument unless there is one of this name. -/
def addArgument (arguments : List (String × String)) (argument : String × String) :
    List (String × String) :=
  if arguments.any (·.1 = argument.1) then arguments else arguments ++ [argument]

/-- The arguments that groups captured, in their order. The first of the groups with
the same argument name counts, of those that took part in the match. -/
def argumentsOf (groups : List (Option String × Option (List Char))) :
    List (String × String) :=
  groups.zipIdx.foldl
    (fun arguments (group, i) =>
      match group.2 with
      | some text =>
          addArgument arguments (argumentName group.1 (i + 1), String.ofList text)
      | none => arguments)
    []

def arguments? (m : Matcher) (text : String) : Option (List (String × String)) :=
  (m.regex.bind (·.captures? text.toList)).map argumentsOf

def compare (a b : Matcher) : Ordering :=
  Ord.compare a.source b.source

instance : BEq Matcher :=
  ⟨fun a b => a.source = b.source⟩

theorem isMatch_never (source text : String) : (never source).isMatch text = false :=
  rfl

theorem arguments?_never (source text : String) : (never source).arguments? text = none :=
  rfl

end Matcher

end Stepwise
