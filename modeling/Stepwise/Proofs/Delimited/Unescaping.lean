import Stepwise.Pattern.Matcher
import Stepwise.Proofs.Delimited.Grammar
import Stepwise.Proofs.Regex.Unescaping.Lexemes
import Stepwise.Proofs.Regex.Weights

/-!
# Delimiters without their escapes

A delimiter inside of a delimited pattern is written with a backslash, which its expression does
not have. Main statement: the matcher of the pattern matches what the matcher of its body as
written does, except that two tildes in a class become an operation and that a number sign begins
a comment where blanks are skipped.
-/

namespace Stepwise.Delimited

open Regex

/-- The expression of a pattern with all the backslashes that it is written with. -/
def Parts.verbatim (parts : Parts) : List Char :=
  match parts.inlineFlags with
  | [] => parts.body
  | letters => '(' :: '?' :: letters ++ ')' :: parts.body

/-- Whether the delimiter of a pattern can lose its backslashes. -/
def Parts.isUnescapable (parts : Parts) : Bool :=
  match lexemes {} parts.verbatim with
  | .ok ls => areUnescapable parts.opening {} ls
  | .error _ => true

variable {parts : Parts} {pattern : String}

theorem toRegex_eq_unescape_verbatim (h : parts.opening ≠ '\x7b') :
    parts.toRegex = unescape [parts.opening] parts.verbatim := by
  have hexpression : parts.expression = unescape [parts.opening] parts.body := if_neg h
  have hletters : '\\' ∉ parts.inlineFlags :=
    fun hmem => absurd ((mem_inlineFlags_iff parts '\\').mp hmem).2 (by decide)
  rw [Parts.toRegex, Parts.verbatim, hexpression]
  cases hflags : parts.inlineFlags with
  | nil => rfl
  | cons c letters =>
      have hfront : '\\' ∉ '(' :: '?' :: (c :: letters) ++ [')'] := by
        rw [hflags] at hletters
        simpa using hletters
      have hbody : unescape [parts.opening] ('(' :: '?' :: (c :: letters) ++ [')'] ++ parts.body) =
          '(' :: '?' :: (c :: letters) ++ [')'] ++ unescape [parts.opening] parts.body :=
        unescape_append hfront parts.body
      simpa using hbody.symm

theorem Parts.Written.opening_mem (h : parts.Written pattern.toList)
    (hbrace : parts.opening ≠ '\x7b') : parts.opening ∈ Turnip.delimiters := by
  obtain ⟨⟨closing, hdelimiters, -⟩, -⟩ := h
  rcases closing_of_closing? (closing?_eq_some_iff.mpr hdelimiters) with ⟨hopen, -⟩ | ⟨hmem, -⟩
  · exact absurd hopen hbrace
  · exact hmem

/-- Only a tilde and a number sign have a meaning of their own somewhere in an expression. -/
theorem isUnescapable_of_not_mem (h : parts.opening ∉ ['~', '#']) : parts.isUnescapable = true := by
  rw [List.mem_cons, List.mem_singleton, not_or] at h
  rw [Parts.isUnescapable]
  split
  · exact areUnescapable_of_ne h.1 h.2 _ _
  · rfl

/-- A pattern compiles to what its body as written compiles to. -/
theorem regex_toRegex (hparts : parts.Written pattern.toList) (hbrace : parts.opening ≠ '\x7b')
    (hunescapable : parts.isUnescapable = true) {limit : Option Nat} {regex : Regex}
    (h : compile limit parts.verbatim = .ok regex) :
    (Matcher.ofSourceWithin limit (delimitedNotation.toRegex pattern)).regex = some regex := by
  have hsource : (delimitedNotation.toRegex pattern).toList =
      unescape [parts.opening] parts.verbatim := by
    change (String.ofList (toRegex pattern.toList)).toList = _
    rw [String.toList_ofList, toRegex, parts?_eq_some_iff.mpr hparts]
    exact toRegex_eq_unescape_verbatim hbrace
  have hlexemes : ∀ ls, lexemes {} parts.verbatim = .ok ls →
      areUnescapable parts.opening {} ls = true := by
    intro ls hls
    rw [Parts.isUnescapable, hls] at hunescapable
    exact hunescapable
  rw [Matcher.ofSourceWithin, hsource, compile_unescape (hparts.opening_mem hbrace) h hlexemes]
  rfl

/-- The matcher of a pattern that is not between braces matches the texts that the matcher of the
body as written does, with the same arguments, if the latter compiles. The delimiter may be a
tilde only if no class has two tildes side by side, and a number sign only if none stands for
itself where blanks are skipped. -/
theorem isMatch_toRegex_eq_verbatim (limit : Option Nat)
    (hparts : parts.Written pattern.toList) (hbrace : parts.opening ≠ '\x7b')
    (hunescapable : parts.opening ∈ ['~', '#'] → parts.isUnescapable = true)
    (hcompiles :
      (Matcher.ofSourceWithin limit (String.ofList parts.verbatim)).isDegraded = false)
    (text : String) :
    (Matcher.ofSourceWithin limit (delimitedNotation.toRegex pattern)).isMatch text =
        (Matcher.ofSourceWithin limit (String.ofList parts.verbatim)).isMatch text ∧
      (Matcher.ofSourceWithin limit (delimitedNotation.toRegex pattern)).arguments? text =
        (Matcher.ofSourceWithin limit (String.ofList parts.verbatim)).arguments? text := by
  have hall : parts.isUnescapable = true := by
    by_cases hopening : parts.opening ∈ ['~', '#']
    · exact hunescapable hopening
    · exact isUnescapable_of_not_mem hopening
  have hverbatim : (Matcher.ofSourceWithin limit (String.ofList parts.verbatim)).regex =
      (compile limit parts.verbatim).toOption := by
    rw [Matcher.ofSourceWithin, String.toList_ofList]
  have hregex : (Matcher.ofSourceWithin limit (delimitedNotation.toRegex pattern)).regex =
      (Matcher.ofSourceWithin limit (String.ofList parts.verbatim)).regex := by
    rw [Matcher.isDegraded, hverbatim] at hcompiles
    rw [hverbatim]
    cases h : compile limit parts.verbatim with
    | error fault =>
        rw [h] at hcompiles
        cases hcompiles
    | ok regex => exact regex_toRegex hparts hbrace hall h
  simp only [Matcher.isMatch, Matcher.arguments?, hregex, and_self]

/-- A tilde may stand in a class, and two of them outside of one. -/
theorem isMatch_toRegex_eq_verbatim_tildes :
    (⟨'~', "^[^\\~]\\~\\~$".toList, ['s']⟩ : Parts).Written "~^[^\\~]\\~\\~$~s".toList ∧
      (Matcher.ofSource "(?s)^[^\\~]\\~\\~$").isDegraded = false ∧
      (Matcher.ofSource (delimitedNotation.toRegex "~^[^\\~]\\~\\~$~s")).isMatch "a~~" =
        (Matcher.ofSource "(?s)^[^\\~]\\~\\~$").isMatch "a~~" := by
  have hparts :
      (⟨'~', "^[^\\~]\\~\\~$".toList, ['s']⟩ : Parts).Written "~^[^\\~]\\~\\~$~s".toList :=
    parts?_eq_some_iff.mp (by decide)
  have hcompiles : (Matcher.ofSource "(?s)^[^\\~]\\~\\~$").isDegraded = false := by
    obtain ⟨regex, hregex⟩ := compile_of_mostBytes_le "(?s)^[^\\~]\\~\\~$".toList
      sizeLimit (by decide +kernel)
    rw [Matcher.isDegraded, Matcher.ofSource, Matcher.ofSourceWithin, hregex]
    rfl
  have hboth := isMatch_toRegex_eq_verbatim (some sizeLimit) hparts (by decide)
    (fun _ => by decide +kernel) hcompiles "a~~"
  exact ⟨hparts, hcompiles, hboth.1⟩

/-- Where blanks are skipped, a number sign without its backslash begins a comment. -/
example :
    (⟨'#', "^a\\#b$".toList, ['x']⟩ : Parts).isUnescapable = false ∧
      (lexemes {} (toRegex "#^a\\#b$#x".toList)).toOption =
        (lexemes {} "(?x)^a".toList).toOption ∧
      (lexemes {} "(?x)^a\\#b$".toList).toOption ≠ (lexemes {} "(?x)^a".toList).toOption := by
  decide +kernel

end Stepwise.Delimited
