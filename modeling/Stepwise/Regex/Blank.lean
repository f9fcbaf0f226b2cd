import Stepwise.Unicode.Space

/-!
# Blanks inside of an expression

In verbose mode an expression may hold white space and comments between its parts;
a comment runs from `#` to the end of the line. Main statement: outside of verbose
mode nothing is skipped.
-/

namespace Stepwise.Regex

/-- Drops blanks and comments from the front; `inComment` tells that a comment has
begun already. -/
def dropBlanks (inComment : Bool) : List Char → List Char
  | [] => []
  | c :: rest =>
      if inComment then dropBlanks (c ≠ '\n') rest
      else if Unicode.isSpace c then dropBlanks false rest
      else if c = '#' then dropBlanks true rest
      else c :: rest

/-- Drops what verbose mode skips in front of the next part. -/
def skipBlanks (verbose : Bool) (source : List Char) : List Char :=
  if verbose then dropBlanks false source else source

/-- Reads up to a closing brace, which is dropped; blanks and comments in between
are left out in verbose mode. -/
def untilBrace (verbose : Bool) (inComment : Bool) :
    List Char → Option (List Char × List Char)
  | [] => none
  | c :: rest =>
      if inComment then untilBrace verbose (c ≠ '\n') rest
      else if c = '}' then some ([], rest)
      else if verbose && Unicode.isSpace c then untilBrace verbose false rest
      else if verbose && c = '#' then untilBrace verbose true rest
      else (untilBrace verbose false rest).map fun (inner, after) => (c :: inner, after)

/-- The next character that counts, which a range is decided on: a comment counts
from its first character on, and a text without such a character has its first
blank as the next one. -/
def peekPastBlanks (verbose : Bool) (source : List Char) : Option Char :=
  if verbose then
    match source.dropWhile Unicode.isSpace with
    | '#' :: rest => (rest.dropWhile Unicode.isSpace).head?.or source.head?
    | c :: _ => some c
    | [] => source.head?
  else source.head?

@[simp] theorem skipBlanks_false (source : List Char) :
    skipBlanks false source = source :=
  rfl

theorem dropBlanks_length_le (inComment : Bool) (source : List Char) :
    (dropBlanks inComment source).length ≤ source.length := by
  induction source generalizing inComment with
  | nil => simp [dropBlanks]
  | cons c rest ih =>
      simp only [dropBlanks, List.length_cons]
      split
      · exact Nat.le_succ_of_le (ih _)
      · split
        · exact Nat.le_succ_of_le (ih _)
        · split
          · exact Nat.le_succ_of_le (ih _)
          · simp

end Stepwise.Regex
