import Stepwise.Regex.Tree
import Stepwise.Unicode.CaseFold
import Stepwise.Unicode.Category
import Stepwise.Unicode.Space
import Stepwise.Unicode.Word

/-!
# Sets of characters

A set is kept as its ranges of code points, so equal sets are the same list. Folding a
set adds the characters that differ in case only from one of its members; it is applied
before a set is negated.
-/

namespace Stepwise.Regex

/-- A set of characters. -/
abbrev CharSet := Unicode.Ranges

namespace CharSet

def single (c : Char) : CharSet :=
  [(c.toNat, c.toNat)]

/-- The characters between two characters, both included. -/
def range (first last : Char) : CharSet :=
  [(first.toNat, last.toNat)]

def anything : CharSet :=
  [(0, Unicode.Ranges.lastPoint)]

def negatedIf (negated : Bool) (s : CharSet) : CharSet :=
  if negated then s.compl else s

def asciiDigits : CharSet :=
  range '0' '9'

def asciiCapitals : CharSet :=
  range 'A' 'Z'

def asciiSmalls : CharSet :=
  range 'a' 'z'

/-- How far the small letters of ASCII lie behind the capital ones. -/
def asciiCaseDistance : Nat :=
  'a'.toNat - 'A'.toNat

/-- The characters of which a variant in the case of ASCII letters is in a set. -/
def asciiFolded (s : CharSet) : CharSet :=
  .unionAll
    [s,
     (s.inter asciiCapitals).map fun (lo, hi) =>
       (lo + asciiCaseDistance, hi + asciiCaseDistance),
     (s.inter asciiSmalls).map fun (lo, hi) =>
       (lo - asciiCaseDistance, hi - asciiCaseDistance)]

/-- The set that an operation makes of two sets. -/
def operate (op : SetOperation) (s t : CharSet) : CharSet :=
  match op with
  | .intersection => s.inter t
  | .difference => s.diff t
  | .symmetricDifference => s.symmDiff t

def ofShort : ShortClass → CharSet
  | .digit => Unicode.Category.decimalNumber
  | .space => Unicode.whiteSpace
  | .word => Unicode.wordCharacters

/-- The ASCII characters of a short class. -/
def ofShortAscii : ShortClass → CharSet
  | .digit => asciiDigits
  | .space => .unionAll [range '\t' '\r', single ' ']
  | .word => .unionAll [asciiDigits, asciiCapitals, single '_', asciiSmalls]

/-- The set of a class written with colons. -/
def ofNamed : NamedClass → CharSet
  | .alnum => .unionAll [asciiDigits, asciiCapitals, asciiSmalls]
  | .alpha => .unionAll [asciiCapitals, asciiSmalls]
  | .ascii => range '\x00' '\x7f'
  | .blank => .unionAll [single '\t', single ' ']
  | .cntrl => .unionAll [range '\x00' '\x1f', single '\x7f']
  | .digit => asciiDigits
  | .graph => range '!' '~'
  | .lower => asciiSmalls
  | .print => range ' ' '~'
  | .punct => (range '!' '~').diff (.unionAll [asciiDigits, asciiCapitals, asciiSmalls])
  | .space => ofShortAscii .space
  | .upper => asciiCapitals
  | .word => ofShortAscii .word
  | .xdigit => .unionAll [asciiDigits, range 'A' 'F', range 'a' 'f']

theorem has_single (c d : Char) : (single c).has d = true ↔ d = c := by
  rw [← Char.toNat_inj]
  simp only [Unicode.Ranges.has, single, Unicode.Ranges.contains]
  grind

end CharSet

end Stepwise.Regex
