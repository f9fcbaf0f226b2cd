import Stepwise.Run.Outcome

/-!
# Colors

Reports may be colored for terminals. A colored text stands between two escape
sequences, the first of which selects the color and the second of which ends it.
-/

namespace Stepwise

/-- Whether reports are colored. -/
inductive Coloring
  /-- They are if the output is a terminal. -/
  | auto
  | always
  | never
deriving DecidableEq, Repr

namespace Coloring

def name : Coloring → String
  | auto => "auto"
  | always => "always"
  | never => "never"

def all : List Coloring :=
  [auto, always, never]

/-- Reads a coloring; the case of its letters does not matter. -/
def ofText? (text : String) : Option Coloring :=
  all.find? fun coloring => coloring.name.toList = text.toList.map Char.toLower

/-- What is said about a text that names no coloring. -/
def advice : String :=
  "possible options: auto, always, never"

end Coloring

/-- Whether a character may belong to the code of a color. -/
def isCodeCharacter (c : Char) : Bool :=
  c.isDigit || c = ';'

/-- How texts of a kind are painted. -/
structure Style where
  /-- What the escape sequence in front of a text selects. -/
  code : String
  isCode : code.toList.all isCodeCharacter = true := by decide
  /-- Whether texts are painted although outputs are no terminals. -/
  forced : Bool := false
deriving DecidableEq, Repr

/-- The styles of the texts in a report. Outputs are no terminals, so that texts are only painted
if that is asked for and forced. -/
structure Styles where
  passed : Style := { code := "32" }
  failed : Style := { code := "31" }
  pending : Style := { code := "33" }
  undefined : Style := { code := "33" }
  skipped : Style := { code := "36" }
  /-- The style of remarks behind a line. -/
  remark : Style := { code := "38;5;8" }
  colored : Bool := false
deriving DecidableEq, Repr

namespace Styles

/-- The styles of a report that is given no others. -/
def usual : Styles := {}

/-- Styles that are used for every output. -/
def force (styles : Styles) : Styles where
  passed := { styles.passed with forced := true }
  failed := { styles.failed with forced := true }
  pending := { styles.pending with forced := true }
  undefined := { styles.undefined with forced := true }
  skipped := { styles.skipped with forced := true }
  remark := { styles.remark with forced := true }
  colored := true

/-- Styles that paint no texts. -/
def plain (styles : Styles) : Styles :=
  { styles with colored := false }

/-- Styles with a coloring applied to them. -/
def apply (styles : Styles) : Coloring → Styles
  | .auto => styles
  | .always => styles.force
  | .never => styles.plain

def ofColoring (coloring : Coloring) : Styles :=
  usual.apply coloring

/-- An escape sequence that selects a color by its code. -/
def sequence (code : String) : String :=
  "\x1b[" ++ code ++ "m"

def paint (styles : Styles) (style : Style) (text : String) : String :=
  if styles.colored && style.forced then sequence style.code ++ text ++ sequence "0" else text

def of (styles : Styles) : Outcome → Style
  | .passed => styles.passed
  | .failed => styles.failed
  | .undefined => styles.undefined
  | .pending => styles.pending
  | .skipped => styles.skipped

def outcome (styles : Styles) (outcome : Outcome) (text : String) : String :=
  styles.paint (styles.of outcome) text

/-- A remark behind a line, in its style. -/
def comment (styles : Styles) (text : String) : String :=
  styles.paint styles.remark text

theorem plain_eq_self {styles : Styles} (h : styles.colored = false) : styles.plain = styles := by
  rw [plain, ← h]

theorem of_force (styles : Styles) (outcome : Outcome) :
    styles.force.of outcome = { styles.of outcome with forced := true } := by
  cases outcome <;> rfl

end Styles

end Stepwise
