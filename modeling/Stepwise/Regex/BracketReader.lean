import Stepwise.Regex.Escape

/-!
# Reading bracketed classes

A class may hold further classes and operations between its sides. The sides that
are still open are kept on a stack while the text is read from left to right.
-/

namespace Stepwise.Regex

/-- A part of a class that waits for what follows. -/
inductive OpenClass
  /-- A bracket was opened inside of a class with these items, the last one first. -/
  | bracket (negated : Bool) (outer : List Bracket)
  /-- An operation waits for its right side. -/
  | operation (op : SetOperation) (left : Bracket)

/-- The union of items in writing order. -/
def Bracket.unionOf : List Bracket → Bracket
  | [] => .empty
  | item :: items => items.foldl .union item

/-- The name of a class written with colons. -/
def NamedClass.ofName? : String → Option NamedClass
  | "alnum" => some .alnum
  | "alpha" => some .alpha
  | "ascii" => some .ascii
  | "blank" => some .blank
  | "cntrl" => some .cntrl
  | "digit" => some .digit
  | "graph" => some .graph
  | "lower" => some .lower
  | "print" => some .print
  | "punct" => some .punct
  | "space" => some .space
  | "upper" => some .upper
  | "word" => some .word
  | "xdigit" => some .xdigit
  | _ => none

/-- Reads a class such as `[:alpha:]`, of which the bracket has been read. -/
def namedClass? : List Char → Option (Bracket × List Char)
  | ':' :: rest =>
      let (negated, start) :=
        match rest with
        | '^' :: after => (true, after)
        | after => (false, after)
      match start.dropWhile (· ≠ ':') with
      | ':' :: ']' :: after =>
          let name := String.ofList (start.takeWhile (· ≠ ':'))
          (NamedClass.ofName? name).map fun k => (.named negated k, after)
      | _ => none
  | _ => none

/-- The set of characters that an escape stands for inside of a class. -/
def Escape.toBracket : Escape → Except Fault Bracket
  | .literal l => .ok (.literal l)
  | .short negated k => .ok (.short negated k)
  | .property negated query => .ok (.property negated query)
  | .anchor _ => .error .badClassItem

/-- The character that an escape stands for at an end of a range. -/
def Escape.toLiteral : Escape → Except Fault Literal
  | .literal l => .ok l
  | _ => .error .badRange

/-- Reads one character or escape of a class. -/
def classItem (verbose : Bool) : List Char → Except Fault (Escape × List Char)
  | [] => .error .unclosedClass
  | '\\' :: rest => Escape.read verbose rest
  | c :: rest => .ok (.literal ⟨c, false⟩, rest)

/-- Reads an item of a class: a range, or what stands alone. A hyphen before the
closing bracket, or before another hyphen, makes no range. -/
def classRange (verbose : Bool) (source : List Char) :
    Except Fault (Bracket × List Char) := do
  let (first, after) ← classItem verbose source
  match skipBlanks verbose after with
  | [] => throw .unclosedClass
  | '-' :: rest =>
      if peekPastBlanks verbose rest = some ']' ∨ peekPastBlanks verbose rest = some '-' then
        return (← first.toBracket, '-' :: rest)
      let (last, after) ← classItem verbose (skipBlanks verbose rest)
      let low ← first.toLiteral
      let high ← last.toLiteral
      if high.char < low.char then throw .badRange
      return (.range low high, after)
  | after => return (← first.toBracket, after)

/-- Reads the hyphens that a class begins with; each stands for itself. -/
def leadingHyphens (verbose : Bool) (inComment : Bool) :
    List Char → List Bracket × List Char
  | [] => ([], [])
  | c :: rest =>
      if inComment then leadingHyphens verbose (c ≠ '\n') rest
      else if verbose && Unicode.isSpace c then leadingHyphens verbose false rest
      else if verbose && c = '#' then leadingHyphens verbose true rest
      else if c = '-' then
        let (items, after) := leadingHyphens verbose false rest
        (.literal ⟨'-', false⟩ :: items, after)
      else ([], c :: rest)

/-- Reads the beginning of a class, of which the bracket has been read: whether it
is negated, and the hyphens or the closing bracket that stand for themselves
there. -/
def openBracket (verbose : Bool) (source : List Char) :
    Except Fault (Bool × List Bracket × List Char) :=
  let (negated, start) :=
    match skipBlanks verbose source with
    | '^' :: rest => (true, skipBlanks verbose rest)
    | start => (false, start)
  match leadingHyphens verbose false start with
  | (_, []) => .error .unclosedClass
  | ([], ']' :: rest) =>
      match skipBlanks verbose rest with
      | [] => .error .unclosedClass
      | after => .ok (negated, [.literal ⟨']', false⟩], after)
  | (items, after) => .ok (negated, items, after)

/-- A class while it is read: its open parts, the innermost first, and the items of
the side being read, the last one first. -/
structure BracketReader where
  pending : List OpenClass
  items : List Bracket

/-- What is known after a step: more is to be read, or the class is complete. -/
inductive BracketReader.Step
  | more (reader : BracketReader) (rest : List Char)
  | done (negated : Bool) (content : Bracket) (rest : List Char)

/-- Ends the side being read and joins it with the operation that waits for it. -/
def BracketReader.side (reader : BracketReader) : Bracket × List OpenClass :=
  let right := Bracket.unionOf reader.items.reverse
  match reader.pending with
  | .operation op left :: outer => (.operation op left right, outer)
  | pending => (right, pending)

/-- Starts the right side of an operation. -/
def BracketReader.operate (reader : BracketReader) (op : SetOperation) : BracketReader :=
  let (left, pending) := reader.side
  ⟨.operation op left :: pending, []⟩

def BracketReader.add (reader : BracketReader) (item : Bracket) : BracketReader :=
  { reader with items := item :: reader.items }

/-- Reads the next item, operation or bracket of a class. -/
def BracketReader.step (verbose : Bool) (reader : BracketReader) (source : List Char) :
    Except Fault BracketReader.Step :=
  match source with
  | [] => .error .unclosedClass
  | '[' :: rest =>
      match namedClass? rest with
      | some (item, after) => .ok (.more (reader.add item) after)
      | none => do
          let (negated, items, after) ← openBracket verbose rest
          return .more ⟨.bracket negated reader.items :: reader.pending, items⟩ after
  | ']' :: rest =>
      match reader.side with
      | (content, .bracket negated _ :: []) => .ok (.done negated content rest)
      | (content, .bracket negated outer :: pending) =>
          .ok (.more ⟨pending, .nested negated content :: outer⟩ rest)
      | _ => .error .unclosedClass
  | '&' :: '&' :: rest => .ok (.more (reader.operate .intersection) rest)
  | '-' :: '-' :: rest => .ok (.more (reader.operate .difference) rest)
  | '~' :: '~' :: rest => .ok (.more (reader.operate .symmetricDifference) rest)
  | source => do
      let (item, after) ← classRange verbose source
      return .more (reader.add item) after

/-- Reads a class to its end. Every step takes at least one character. -/
def BracketReader.run (verbose : Bool) (reader : BracketReader) (source : List Char) :
    Except Fault (Bool × Bracket × List Char) :=
  match reader.step verbose (skipBlanks verbose source) with
  | .error fault => .error fault
  | .ok (.done negated content rest) => .ok (negated, content, rest)
  | .ok (.more reader rest) =>
      if rest.length < source.length then reader.run verbose rest
      else .error .unclosedClass
termination_by source.length

/-- Reads a bracketed class, of which the first bracket has been read. -/
def readBracket (verbose : Bool) (source : List Char) :
    Except Fault (Bool × Bracket × List Char) := do
  let (negated, items, after) ← openBracket verbose source
  BracketReader.run verbose ⟨[.bracket negated []], items⟩ after

end Stepwise.Regex
