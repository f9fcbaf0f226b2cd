/-!
# Faults of a regular expression

The reasons why a text is no regular expression.
-/

namespace Stepwise.Regex

inductive Fault
  /-- The text ends inside of an escape. -/
  | unfinishedEscape
  /-- No escape is written with this character. -/
  | unknownEscape (c : Char)
  /-- References to earlier groups are not supported. -/
  | backreference
  /-- A code point is not written as hexadecimal digits. -/
  | badHexadecimal
  /-- A hexadecimal number stands for no character. -/
  | badCodePoint
  /-- The braces after a word boundary hold no known name. -/
  | badBoundaryName
  /-- A bracketed class is not closed. -/
  | unclosedClass
  /-- A bracketed class holds something that is no set of characters. -/
  | badClassItem
  /-- A range of characters ends before it starts, or is not between characters. -/
  | badRange
  /-- No group is open at a closing parenthesis. -/
  | unopenedGroup
  /-- A group is not closed. -/
  | unclosedGroup
  /-- Looking ahead or behind is not supported. -/
  | lookAround
  /-- The name of a group is empty, unfinished or holds a wrong character. -/
  | badGroupName
  /-- Two groups have one name. -/
  | repeatedGroupName (name : String)
  /-- The flags of a group are empty, unfinished, unknown or repeated. -/
  | badFlags
  /-- A repetition has nothing to repeat. -/
  | nothingToRepeat
  /-- The count of a repetition is unfinished, no number, too large or descending. -/
  | badCount
  /-- The parts of the expression are nested too deeply. -/
  | nestedTooDeeply
  /-- A class needs Unicode mode, which is switched off. -/
  | needsUnicode
  /-- An expression outside of Unicode mode could match a part of a character. -/
  | splitsCharacters
  /-- No property of characters has this name. -/
  | unknownProperty
  /-- The expression takes too much memory once its repetitions are written out. -/
  | tooLarge
deriving DecidableEq, Repr

end Stepwise.Regex
