import Stepwise.Step.Romanization
import Stepwise.Step.Token

/-!
# Names of steps

A step text is turned into an identifier for its definition: the literals are left
out, the rest is romanized and reduced to letters and underscores, and its words are
joined with capital initials.
-/

namespace Stepwise.Step

def isNameCharacter (c : Char) : Bool :=
  c.isAlpha || c = '_'

/-- Joins the words of a text and capitalizes each; `atStart` tells that a word
begins here. -/
def joinWords (atStart : Bool) : List Char → List Char
  | [] => []
  | c :: rest =>
      if Unicode.isSpace c then joinWords true rest
      else (if atStart then c.toUpper else c) :: joinWords false rest

def plainText (text : List Char) : List Char :=
  (tokenize text).flatMap fun
    | .text chars => chars
    | .literal .. => []

/-- The name in a text of ASCII. Whatever is neither a letter nor an underscore nor white
space is deleted, so that it does not separate words. -/
def nameIn (text : List Char) : List Char :=
  joinWords true (text.filter fun c => isNameCharacter c || Unicode.isSpace c)

/-- The name of a step, given how texts are romanized. -/
def nameBy (romanization : List Char → List Char) (text : List Char) : List Char :=
  nameIn (romanization (plainText text))

def stepName (text : List Char) : List Char :=
  nameBy romanize text

end Stepwise.Step
