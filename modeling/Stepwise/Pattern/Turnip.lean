import Stepwise.Pattern.Basic
import Stepwise.Pattern.Replacement
import Stepwise.Pattern.Unescape
import Stepwise.Step.Name
import Stepwise.Unicode.Word

/-!
# Turnip patterns

The default notation: `:name` is a placeholder, `(s)` an optional part and
`cat/dog` a choice between two words, as in

    I have :count "thing(s)" in my basket/cart

A pattern becomes a regular expression in passes over its text. At first every
special character is quoted, so that the passes find the special characters of the
pattern, and none of the expressions that earlier passes put in, by their
backslashes.
-/

namespace Stepwise.Turnip

open Step

/-- The characters that are quoted before the parts of a pattern are looked for. -/
def quotedCharacters : List Char :=
  ['.', '\\', '+', '*', '?', '[', '^', ']', '$', '(', ')', '\x7b', '\x7d', '=', '!', '<', '>',
    '|', ':', '-', '#', '/']

/-- The quoted characters that mean nothing special in a regular expression. They lose
their backslashes in the end. -/
def inertCharacters : List Char :=
  [':', '=', '!', '<', '>', '/']

/-- The characters that delimit regular expressions, which are no turnip patterns. -/
def delimiters : List Char :=
  ['/', '~', '#', '\x60']

/-- Whether a text starts and ends with the same delimiter. -/
def isDelimited (text : List Char) : Bool :=
  match text.head?, text.getLast? with
  | some first, some last => first = last && first ∈ delimiters
  | _, _ => false

def quote (pattern : List Char) : List Char :=
  pattern.flatMap fun c => if c ∈ quotedCharacters then ['\\', c] else [c]

def isNameCharacter (c : Char) : Bool :=
  c.isAlphanum || c = '_'

/-- The groups of a placeholder: one for a value in double quotes, one for a value in
single quotes and one for a bare word. What follows a dot in the name of a group
tells them apart. -/
def placeholderGroups (name : List Char) : List Char :=
  "(?:\"(?P<".toList ++ name ++ ">[^\"]+)\"|'(?P<".toList ++ name ++
    ".single>[^']+)'|\\b(?P<".toList ++ name ++ ".bare>\\w+)\\b)".toList

/-- Replaces a quoted colon with a name behind it by the groups of a placeholder. -/
def placeholderRule : ReplacementRule
  | '\\' :: ':' :: rest =>
      match rest.takeWhile isNameCharacter with
      | [] => none
      | name => some (placeholderGroups name, rest.dropWhile isNameCharacter)
  | _ => none

/-- A part that may be missing. -/
def maybe (text : List Char) : List Char :=
  "(?:".toList ++ text ++ ")?".toList

/-- Takes quoted parentheses and the text without backslashes in between. -/
def takeParenthesized? : List Char → Option (List Char × List Char)
  | '\\' :: '(' :: rest =>
      match rest.takeWhile (· ≠ '\\'), rest.dropWhile (· ≠ '\\') with
      | first :: inner, '\\' :: ')' :: after => some (first :: inner, after)
      | _, _ => none
  | _ => none

/-- An optional part with the white space behind it, which may be missing, too. -/
def optionalPart (text after : List Char) : List Char × List Char :=
  match after with
  | c :: rest =>
      if Unicode.isSpace c then (maybe text ++ maybe [c], rest) else (maybe text, after)
  | [] => (maybe text, [])

/-- Replaces an optional part; one character of white space before it and one behind
it may be missing, too. -/
def optionalRule : ReplacementRule
  | [] => none
  | c :: rest =>
      if Unicode.isSpace c then
        (takeParenthesized? rest).map fun (text, after) =>
          let (part, after) := optionalPart text after
          (maybe [c] ++ part, after)
      else (takeParenthesized? (c :: rest)).map fun (text, after) => optionalPart text after

/-- Replaces two words with a quoted slash in between by a choice. -/
def choiceRule : ReplacementRule := fun text =>
  match text.takeWhile Unicode.isWord, text.dropWhile Unicode.isWord with
  | first :: left, '\\' :: '/' :: rest =>
      match rest.takeWhile Unicode.isWord with
      | [] => none
      | right =>
          some ("(?:".toList ++ first :: left ++ '|' :: right ++ [')'],
            rest.dropWhile Unicode.isWord)
  | _, _ => none

/-- The regular expression of a pattern, which has to match whole texts. -/
def toRegex (pattern : List Char) : List Char :=
  let replaced := choiceRule.replaceAll
    (optionalRule.replaceAll (placeholderRule.replaceAll (quote pattern)))
  '^' :: unescape inertCharacters replaced ++ ['$']

/-- The name of the argument that stands for a numbered literal. -/
def argumentName (index : Nat) : List Char :=
  "arg".toList ++ Nat.toDigits 10 index

/-- A token as it is written in a generated pattern. -/
def sourceOf : Token → List Char
  | .text chars => chars
  | .literal _ _ index => ':' :: argumentName index

/-- The pattern of a step text, in which each literal is a placeholder. -/
def generate (text : List Char) : List Char :=
  (tokenize text).flatMap sourceOf

end Turnip

/-- The notation of turnip patterns, given how step texts are romanized. -/
def turnipNotationBy (romanization : List Char → List Char) : Notation where
  name := "TurnipPatternPolicy"
  generates kind := kind = none || kind = some "turnip"
  generate text :=
    { name := String.ofList (Step.nameBy romanization text.toList)
      source := String.ofList (Turnip.generate text.toList)
      placeholders := Step.literalCount text.toList }
  accepts pattern := !Turnip.isDelimited pattern.toList
  toRegex pattern := String.ofList (Turnip.toRegex pattern.toList)

/-- The notation of turnip patterns, which is the default one. -/
def turnipNotation : Notation :=
  turnipNotationBy Step.romanize

end Stepwise
