import Stepwise.Regex.BracketReader
import Stepwise.Unicode.Later

/-!
# Lexemes of a regular expression

The text of an expression is cut into characters and classes, parentheses, bars and
repetitions. Whether blanks are skipped depends on the flags of the groups that are
open, so the reader keeps the mode to return to for each of them.
-/

namespace Stepwise.Regex

/-- The smallest parts of an expression. -/
inductive Lexeme
  | atom (tree : Tree)
  | flags (change : FlagChange)
  | openGroup (kind : GroupKind)
  | closeGroup
  | bar
  | repetition (min : Nat) (max : Option Nat) (lazy : Bool)
deriving DecidableEq, Repr

/-- Reads the flags of a group; a hyphen switches off those behind it. -/
def readFlags (change : FlagChange) (negated : Bool) :
    List Char → Except Fault FlagChange
  | [] => .ok change
  | '-' :: rest =>
      if negated || rest.isEmpty then .error .badFlags else readFlags change true rest
  | c :: rest =>
      let flag? : Option Flag :=
        match c with
        | 'i' => some .caseless
        | 'm' => some .multiline
        | 's' => some .dotAll
        | 'U' => some .swapGreed
        | 'u' => some .unicode
        | 'R' => some .crlf
        | 'x' => some .verbose
        | _ => none
      match flag? with
      | none => .error .badFlags
      | some flag =>
          if (change.value? flag).isSome then .error .badFlags
          else readFlags (change ++ [(flag, !negated)]) negated rest

def isNameCharacter (c : Char) : Bool :=
  c = '_' || c = '.' || c = '[' || c = ']' || Unicode.isAlphanumeric c

/-- Whether a character may begin the name of a group. -/
def isNameStart (c : Char) : Bool :=
  c = '_' || Unicode.isAlphabetic c

/-- Reads the name of a group up to the angle that closes it. -/
def readGroupName (source : List Char) : Except Fault (String × List Char) :=
  match source.takeWhile (· ≠ '>'), source.dropWhile (· ≠ '>') with
  | first :: others, _ :: rest =>
      if isNameStart first && others.all isNameCharacter then
        .ok (String.ofList (first :: others), rest)
      else .error .badGroupName
  | _, _ => .error .badGroupName

/-- Reads what follows an opening parenthesis and a question mark. -/
def readGroupFlags (source : List Char) : Except Fault (Lexeme × List Char) :=
  let isFlag := fun c => c ≠ ':' && c ≠ ')'
  match source.takeWhile isFlag, source.dropWhile isFlag with
  | text, ':' :: rest => do return (.openGroup (.plain (← readFlags [] false text)), rest)
  | [], ')' :: _ => .error .nothingToRepeat
  | text, ')' :: rest => do return (.flags (← readFlags [] false text), rest)
  | _, _ => .error .unclosedGroup

/-- Reads what follows an opening parenthesis. -/
def readGroup (verbose : Bool) (source : List Char) : Except Fault (Lexeme × List Char) :=
  match skipBlanks verbose source with
  | '?' :: '=' :: _ => .error .lookAround
  | '?' :: '!' :: _ => .error .lookAround
  | '?' :: '<' :: '=' :: _ => .error .lookAround
  | '?' :: '<' :: '!' :: _ => .error .lookAround
  | '?' :: 'P' :: '<' :: rest =>
      (readGroupName rest).map fun (name, after) => (.openGroup (.capture (some name)), after)
  | '?' :: '<' :: rest =>
      (readGroupName rest).map fun (name, after) => (.openGroup (.capture (some name)), after)
  | '?' :: rest => readGroupFlags rest
  | rest => .ok (.openGroup (.capture none), rest)

/-- Reads digits, which blanks and comments may separate in verbose mode. -/
def spanDigits (verbose : Bool) (inComment : Bool) : List Char → List Char × List Char
  | [] => ([], [])
  | c :: rest =>
      if inComment then spanDigits verbose (c ≠ '\n') rest
      else if c.isDigit then
        let (digits, after) := spanDigits verbose false rest
        (c :: digits, after)
      else if verbose && Unicode.isSpace c then spanDigits verbose false rest
      else if verbose && c = '#' then spanDigits verbose true rest
      else ([], c :: rest)

/-- Reads a count with the white space around it. Counts have 32 bits. -/
def readCount (verbose : Bool) (source : List Char) : Except Fault (Nat × List Char) :=
  let (digits, after) := spanDigits verbose false (source.dropWhile Unicode.isSpace)
  let count := digits.foldl (fun n d => 10 * n + (d.toNat - '0'.toNat)) 0
  if digits.isEmpty || count ≥ 0x100000000 then .error .badCount
  else .ok (count, after.dropWhile Unicode.isSpace)

/-- Reads a question mark, which makes a repetition lazy. -/
def readLazy : List Char → Bool × List Char
  | '?' :: rest => (true, rest)
  | rest => (false, rest)

/-- Reads a counted repetition, of which the brace has been read. -/
def readRepetition (verbose : Bool) (source : List Char) :
    Except Fault (Lexeme × List Char) := do
  let (min, after) ← readCount verbose (skipBlanks verbose source)
  let (max, after) ←
    match after with
    | ',' :: rest =>
        match skipBlanks verbose rest with
        | '\x7d' :: rest => pure (none, '\x7d' :: rest)
        | rest => do
            let (max, after) ← readCount verbose rest
            pure (some max, after)
    | after => pure (some min, after)
  match after with
  | '\x7d' :: rest =>
      if max.any (· < min) then throw .badCount
      let (isLazy, after) := readLazy (skipBlanks verbose rest)
      return (.repetition min max isLazy, after)
  | _ => throw .badCount

/-- The tree of an escape outside of a class. -/
def Escape.toTree : Escape → Tree
  | .literal l => .literal l
  | .short negated k => .short negated k
  | .property negated query => .property negated query
  | .anchor a => .anchor a

/-- Reads the first lexeme of a text that does not begin with skipped blanks. -/
def Lexeme.read (verbose : Bool) : List Char → Except Fault (Lexeme × List Char)
  | [] => .error .unfinishedEscape
  | '(' :: rest => readGroup verbose rest
  | ')' :: rest => .ok (.closeGroup, rest)
  | '|' :: rest => .ok (.bar, rest)
  | '[' :: rest =>
      (readBracket verbose rest).map fun (negated, content, after) =>
        (.atom (.bracket negated content), after)
  | '?' :: rest =>
      let (isLazy, after) := readLazy rest
      .ok (.repetition 0 (some 1) isLazy, after)
  | '*' :: rest =>
      let (isLazy, after) := readLazy rest
      .ok (.repetition 0 none isLazy, after)
  | '+' :: rest =>
      let (isLazy, after) := readLazy rest
      .ok (.repetition 1 none isLazy, after)
  | '\x7b' :: rest => readRepetition verbose rest
  | '\\' :: rest =>
      (Escape.read verbose rest).map fun (escape, after) => (.atom escape.toTree, after)
  | '.' :: rest => .ok (.atom .dot, rest)
  | '^' :: rest => .ok (.atom (.anchor .lineStart), rest)
  | '$' :: rest => .ok (.atom (.anchor .lineEnd), rest)
  | c :: rest => .ok (.atom (.literal ⟨c, false⟩), rest)

/-- Whether blanks are skipped now, and for every open group whether they are
skipped again once it is closed. -/
structure LexicalMode where
  verbose : Bool := false
  outer : List Bool := []

def LexicalMode.after (mode : LexicalMode) : Lexeme → LexicalMode
  | .flags change => { mode with verbose := (change.value? .verbose).getD mode.verbose }
  | .openGroup (.plain change) =>
      ⟨(change.value? .verbose).getD mode.verbose, mode.verbose :: mode.outer⟩
  | .openGroup (.capture _) => ⟨mode.verbose, mode.verbose :: mode.outer⟩
  | .closeGroup =>
      match mode.outer with
      | verbose :: outer => ⟨verbose, outer⟩
      | [] => mode
  | _ => mode

/-- Cuts a text into lexemes. Every lexeme takes at least one character. -/
def lexemes (mode : LexicalMode) (source : List Char) : Except Fault (List Lexeme) :=
  match skipBlanks mode.verbose source with
  | [] => .ok []
  | start =>
      match Lexeme.read mode.verbose start with
      | .error fault => .error fault
      | .ok (lexeme, rest) =>
          if rest.length < source.length then
            (lexemes (mode.after lexeme) rest).map (lexeme :: ·)
          else .error .unfinishedEscape
termination_by source.length

end Stepwise.Regex
