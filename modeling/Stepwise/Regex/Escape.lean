import Stepwise.Regex.Blank
import Stepwise.Regex.Fault
import Stepwise.Regex.Tree

/-!
# Escapes

What a backslash introduces: a character, a class or an assertion. `quote` goes the
other way and writes a text so that it stands for itself; main statement: quoting
touches special characters only.
-/

namespace Stepwise.Regex

/-- Whether a character has a meaning of its own in some expression. -/
def isSpecial (c : Char) : Bool :=
  c ∈ ['\\', '.', '+', '*', '?', '(', ')', '|', '[', ']', '\x7b', '\x7d', '^', '$', '#', '&',
    '-', '~']

/-- Writes a text as an expression that stands for the text itself. -/
def quote (text : List Char) : List Char :=
  text.flatMap fun c => if isSpecial c then ['\\', c] else [c]

/-- Whether a backslash may stand before a character that does not need one. -/
def isQuotable (c : Char) : Bool :=
  c.toNat < 0x80 && !c.isAlphanum && c ≠ '<' && c ≠ '>'

/-- What an escape stands for. -/
inductive Escape
  | literal (l : Literal)
  | short (negated : Bool) (k : ShortClass)
  | property (negated : Bool) (query : PropertyQuery)
  | anchor (a : Anchor)
deriving DecidableEq, Repr

def hexValue? (c : Char) : Option Nat :=
  if c.isDigit then some (c.toNat - '0'.toNat)
  else if 'a' ≤ c && c ≤ 'f' then some (c.toNat - 'a'.toNat + 10)
  else if 'A' ≤ c && c ≤ 'F' then some (c.toNat - 'A'.toNat + 10)
  else none

/-- The character whose code point is written in hexadecimal digits. -/
def charOfHex (digits : List Char) : Except Fault Char := do
  let some values := digits.mapM hexValue? | throw .badHexadecimal
  if values.isEmpty then throw .badHexadecimal
  let code := values.foldl (fun n d => 16 * n + d) 0
  if code.isValidChar then return Char.ofNat code else throw .badCodePoint

/-- Reads a fixed number of digits, which blanks may separate in verbose mode. -/
def fixedDigits (verbose : Bool) :
    Nat → List Char → Except Fault (List Char × List Char)
  | 0, source => .ok ([], source)
  | _ + 1, [] => .error .unfinishedEscape
  | n + 1, c :: rest => do
      let (digits, after) ← fixedDigits verbose n (skipBlanks verbose rest)
      return (c :: digits, after)

/-- Reads a character by its code point; `width` is the number of digits it has
without braces. -/
def codePointEscape (verbose : Bool) (width : Nat) (source : List Char) :
    Except Fault (Literal × List Char) :=
  match skipBlanks verbose source with
  | '\x7b' :: rest => do
      let some (digits, after) := untilBrace verbose false rest | throw .unfinishedEscape
      return (⟨← charOfHex digits, false⟩, after)
  | start => do
      let (digits, after) ← fixedDigits verbose width start
      return (⟨← charOfHex digits, width = 2⟩, after)

/-- Splits a text before the first place where a word begins. -/
def splitAtWord (word : List Char) : List Char → Option (List Char × List Char)
  | [] => none
  | c :: rest =>
      if word.isPrefixOf (c :: rest) then some ([], (c :: rest).drop word.length)
      else (splitAtWord word rest).map fun (before, after) => (c :: before, after)

/-- Reads what stands between the braces of a property. An unequal sign, a colon or
an equals sign separates a property from its value. -/
def PropertyQuery.ofText (text : List Char) : PropertyQuery :=
  match splitAtWord ['!', '='] text with
  | some (left, right) => .value (String.ofList left) (String.ofList right) true
  | none =>
      match splitAtWord [':'] text <|> splitAtWord ['='] text with
      | some (left, right) => .value (String.ofList left) (String.ofList right) false
      | none => .name (String.ofList text)

/-- Reads a property: one letter, or a name in braces. -/
def propertyEscape (verbose : Bool) (source : List Char) :
    Except Fault (PropertyQuery × List Char) :=
  match skipBlanks verbose source with
  | [] => .error .unfinishedEscape
  | '\x7b' :: rest =>
      match untilBrace verbose false rest with
      | none => .error .unfinishedEscape
      | some (text, after) => .ok (.ofText text, after)
  | '\\' :: _ => .error .unknownProperty
  | c :: rest => .ok (.name c.toString, rest)

/-- Reads the name that may follow a word boundary in braces. Braces that hold
anything but letters and hyphens at first are left to be a repetition. -/
def boundaryName (verbose : Bool) (source : List Char) :
    Except Fault (WordEdge × List Char) :=
  match source with
  | '\x7b' :: rest =>
      match skipBlanks verbose rest with
      | [] => .error .badBoundaryName
      | c :: _ =>
          if c.isAlpha || c = '-' then
            match untilBrace verbose false rest with
            | none => .error .badBoundaryName
            | some (text, after) =>
                match String.ofList text with
                | "start" => .ok (.wordStart, after)
                | "end" => .ok (.wordEnd, after)
                | "start-half" => .ok (.startHalf, after)
                | "end-half" => .ok (.endHalf, after)
                | _ => .error .badBoundaryName
          else .ok (.boundary, source)
  | _ => .ok (.boundary, source)

/-- The characters and assertions that a single letter stands for. -/
def letterEscape? (c : Char) : Option Escape :=
  match c with
  | 'a' => some (.literal ⟨'\x07', false⟩)
  | 'f' => some (.literal ⟨'\x0c', false⟩)
  | 't' => some (.literal ⟨'\t', false⟩)
  | 'n' => some (.literal ⟨'\n', false⟩)
  | 'r' => some (.literal ⟨'\r', false⟩)
  | 'v' => some (.literal ⟨'\x0b', false⟩)
  | 'd' => some (.short false .digit)
  | 's' => some (.short false .space)
  | 'w' => some (.short false .word)
  | 'D' => some (.short true .digit)
  | 'S' => some (.short true .space)
  | 'W' => some (.short true .word)
  | 'A' => some (.anchor .textStart)
  | 'z' => some (.anchor .textEnd)
  | 'B' => some (.anchor (.edge .interior))
  | '<' => some (.anchor (.edge .wordStart))
  | '>' => some (.anchor (.edge .wordEnd))
  | _ => none

/-- Reads an escape, of which the backslash has been read. -/
def Escape.read (verbose : Bool) : List Char → Except Fault (Escape × List Char)
  | [] => .error .unfinishedEscape
  | c :: rest =>
      if isSpecial c || isQuotable c then .ok (.literal ⟨c, false⟩, rest)
      else if c.isDigit then .error .backreference
      else
        match letterEscape? c with
        | some escape => .ok (escape, rest)
        | none =>
            match c with
            | 'x' => (codePointEscape verbose 2 rest).map fun (l, after) => (.literal l, after)
            | 'u' => (codePointEscape verbose 4 rest).map fun (l, after) => (.literal l, after)
            | 'U' => (codePointEscape verbose 8 rest).map fun (l, after) => (.literal l, after)
            | 'p' => (propertyEscape verbose rest).map fun (q, after) => (.property false q, after)
            | 'P' => (propertyEscape verbose rest).map fun (q, after) => (.property true q, after)
            | 'b' => (boundaryName verbose rest).map fun (e, after) => (.anchor (.edge e), after)
            | _ => .error (.unknownEscape c)

end Stepwise.Regex
