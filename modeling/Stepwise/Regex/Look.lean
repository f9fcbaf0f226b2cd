import Stepwise.Regex.Tree
import Stepwise.Unicode.Word

/-!
# Assertions

Assertions ask for a place in the text by the characters on both of its sides, with all
flags settled.
-/

namespace Stepwise.Regex

/-- Assertions about a place in the text, by the characters around it. -/
inductive Look
  | textStart
  | textEnd
  /-- The start of a line; `crlf` counts carriage returns as ends of lines. -/
  | lineStart (crlf : Bool)
  | lineEnd (crlf : Bool)
  /-- The edge of a word; outside of Unicode mode words are of ASCII characters. -/
  | edge (e : WordEdge) (unicode : Bool)
deriving DecidableEq, Repr

/-- Whether a word edge lies between two characters, given which of them belong to
words. -/
def WordEdge.holds (e : WordEdge) (before after : Bool) : Bool :=
  match e with
  | .boundary => before != after
  | .interior => before == after
  | .wordStart => !before && after
  | .wordEnd => before && !after
  | .startHalf => !before
  | .endHalf => !after

/-- Whether an assertion holds between two characters, which are missing at the ends
of the text. -/
def Look.holds (look : Look) (before after : Option Char) : Bool :=
  match look with
  | .textStart => before.isNone
  | .textEnd => after.isNone
  | .lineStart false => before.isNone || before = some '\n'
  | .lineStart true =>
      before.isNone || before = some '\n' || (before = some '\r' && after ≠ some '\n')
  | .lineEnd false => after.isNone || after = some '\n'
  | .lineEnd true =>
      after.isNone || after = some '\r' || (after = some '\n' && before ≠ some '\r')
  | .edge e unicode =>
      let isWord := if unicode then Unicode.isWord else Unicode.isAsciiWord
      e.holds (before.any isWord) (after.any isWord)

end Stepwise.Regex
