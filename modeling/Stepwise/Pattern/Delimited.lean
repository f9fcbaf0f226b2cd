import Stepwise.Pattern.Basic
import Stepwise.Pattern.Turnip
import Stepwise.Pattern.Unescape
import Stepwise.Regex.Escape
import Stepwise.Step.Name

/-!
# Delimited patterns

Patterns that are regular expressions, written between delimiters with letters behind
them that modify them, as in `/^I have (\d+) apples?$/i`. Main statement: the parts of a
delimited pattern make it up again.
-/

namespace Stepwise.Delimited

open Step

/-- The letters that may stand behind a delimited pattern. -/
def modifiers : List Char :=
  ['i', 'm', 's', 'x', 'A', 'D', 'S', 'U', 'X', 'J', 'u']

/-- The modifiers that an expression has a flag for. The others change nothing. -/
def flags : List Char :=
  ['i', 'm', 's', 'x', 'U']

/-- The delimiter that closes what a delimiter opens. -/
def closing? (opening : Char) : Option Char :=
  if opening = '\x7b' then some '\x7d'
  else if opening ∈ Turnip.delimiters then some opening
  else none

def splitLast? (c : Char) : List Char → Option (List Char × List Char)
  | [] => none
  | d :: rest =>
      match splitLast? c rest with
      | some (before, after) => some (d :: before, after)
      | none => if d = c then some ([], rest) else none

/-- A delimited pattern in its parts. -/
structure Parts where
  /-- The delimiter in front. -/
  opening : Char
  /-- The expression as it is written. -/
  body : List Char
  /-- The letters behind the closing delimiter. -/
  trailing : List Char
deriving DecidableEq, Repr

/-- The parts of a delimited pattern. The last closing delimiter ends it. -/
def parts? : List Char → Option Parts
  | [] => none
  | opening :: rest =>
      match closing? opening with
      | none => none
      | some closing =>
          match splitLast? closing rest with
          | none => none
          | some (body, trailing) =>
              if trailing.all (· ∈ modifiers) then some ⟨opening, body, trailing⟩ else none

/-- The flags that the modifiers of a pattern set, each one once. -/
def Parts.inlineFlags (parts : Parts) : List Char :=
  (parts.trailing.filter (· ∈ flags)).eraseDups

def Parts.ignoredModifiers (parts : Parts) : List Char :=
  parts.trailing.filter (· ∉ flags)

/-- The expression between the delimiters. A delimiter inside is written with a
backslash; braces stand for themselves. -/
def Parts.expression (parts : Parts) : List Char :=
  if parts.opening = '\x7b' then parts.body else unescape [parts.opening] parts.body

/-- The regular expression of a pattern in parts, with its flags in front. -/
def Parts.toRegex (parts : Parts) : List Char :=
  match parts.inlineFlags with
  | [] => parts.expression
  | letters => '(' :: '?' :: letters ++ ')' :: parts.expression

/-- The regular expression of a pattern. A pattern without delimiters is one itself. -/
def toRegex (pattern : List Char) : List Char :=
  match parts? pattern with
  | some parts => parts.toRegex
  | none => pattern

/-- The modifiers of a pattern that change nothing, if there are any. -/
def ignored (pattern : String) : Option String :=
  match (parts? pattern.toList).map Parts.ignoredModifiers with
  | none | some [] => none
  | some letters => some (String.ofList letters)

/-- The group that matches the literals of a kind; what it captures is the literal
without its quotes. -/
def literalGroup : LiteralKind → List Char
  | .doubleQuoted => "\"([^\"]*)\"".toList
  | .singleQuoted => "'([^']*)'".toList
  | .integer => "(\\d+)".toList

def escapeSlashes (text : List Char) : List Char :=
  text.flatMap fun c => if c = '/' then ['\\', '/'] else [c]

/-- A token as it is written in a generated pattern. -/
def sourceOf : Token → List Char
  | .text chars => escapeSlashes (Regex.quote chars)
  | .literal kind _ _ => literalGroup kind

/-- The pattern of a step text, which matches the whole of it. -/
def generate (text : List Char) : List Char :=
  ['/', '^'] ++ (tokenize text).flatMap sourceOf ++ ['$', '/']

/-- A text that cannot be split at a character does not have it. -/
theorem not_mem_of_splitLast? {c : Char} {text : List Char}
    (h : splitLast? c text = none) : c ∉ text := by
  induction text with
  | nil => simp
  | cons d rest ih =>
      simp only [splitLast?] at h
      split at h
      · exact absurd h (by simp)
      · rename_i hrest
        split at h
        · exact absurd h (by simp)
        · rename_i hne
          simpa [Ne.symm hne] using ih hrest

/-- The parts of a text that is split make it up again, and the second part does not
have the character. -/
theorem eq_append_of_splitLast? {c : Char} {text before after : List Char}
    (h : splitLast? c text = some (before, after)) :
    text = before ++ c :: after ∧ c ∉ after := by
  induction text generalizing before with
  | nil => simp [splitLast?] at h
  | cons d rest ih =>
      simp only [splitLast?] at h
      split at h
      · rename_i front back heq
        simp only [Option.some.injEq, Prod.mk.injEq] at h
        obtain ⟨rfl, rfl⟩ := h
        obtain ⟨hrest, hmem⟩ := ih heq
        exact ⟨by rw [hrest, List.cons_append], hmem⟩
      · rename_i hnone
        split at h
        · rename_i hc
          simp only [Option.some.injEq, Prod.mk.injEq] at h
          obtain ⟨rfl, rfl⟩ := h
          exact ⟨by rw [hc, List.nil_append], not_mem_of_splitLast? hnone⟩
        · exact absurd h (by simp)

/-- The parts of a delimited pattern make it up again. -/
theorem eq_append_of_parts? {pattern : List Char} {parts : Parts}
    (h : parts? pattern = some parts) :
    ∃ closing, closing? parts.opening = some closing ∧
      pattern = parts.opening :: parts.body ++ closing :: parts.trailing := by
  cases pattern with
  | nil => simp [parts?] at h
  | cons opening rest =>
      simp only [parts?] at h
      split at h
      · exact absurd h (by simp)
      · rename_i closing hclosing
        split at h
        · exact absurd h (by simp)
        · rename_i body trailing hsplit
          split at h
          · simp only [Option.some.injEq] at h
            subst h
            exact ⟨closing, hclosing, by
              rw [(eq_append_of_splitLast? hsplit).1, List.cons_append]⟩
          · exact absurd h (by simp)

end Delimited

/-- The notation of delimited patterns, given how step texts are romanized. -/
def delimitedNotationBy (romanization : List Char → List Char) : Notation where
  name := "RegexPatternPolicy"
  generates kind := kind = some "regex"
  generate text :=
    { name := String.ofList (Step.nameBy romanization text.toList)
      source := String.ofList (Delimited.generate text.toList)
      placeholders := Step.literalCount text.toList }
  accepts pattern := (Delimited.parts? pattern.toList).isSome
  toRegex pattern := String.ofList (Delimited.toRegex pattern.toList)
  ignored := Delimited.ignored

def delimitedNotation : Notation :=
  delimitedNotationBy Step.romanize

end Stepwise
