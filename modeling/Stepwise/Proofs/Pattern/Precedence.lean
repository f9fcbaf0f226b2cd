import Stepwise.Pattern.Registry
import Stepwise.Proofs.Turnip.Passes

/-!
# Which notation a delimited pattern is compiled by

The standard registry asks the turnip notation first, and that one only leaves the patterns
that begin and end with the same delimiter. Main statement: the delimited patterns with letters
behind them, and those between braces, are compiled as turnip patterns, and so to expressions
other than their own.
-/

namespace Stepwise.Delimited

variable {pattern : List Char} {parts : Parts}

/-! Patterns that both notations could take. -/

theorem mem_modifiers_of_parts? (h : parts? pattern = some parts) :
    ∀ c ∈ parts.trailing, c ∈ modifiers := by
  cases pattern with
  | nil => exact absurd h (by simp [parts?])
  | cons opening rest =>
      simp only [parts?] at h
      split at h
      · exact absurd h (by simp)
      · split at h
        · exact absurd h (by simp)
        · split at h
          · rename_i hall
            rw [← Option.some.inj h]
            simpa using hall
          · exact absurd h (by simp)

theorem closing_of_closing? {opening closing : Char} (h : closing? opening = some closing) :
    opening = '\x7b' ∧ closing = '\x7d' ∨ opening ∈ Turnip.delimiters ∧ closing = opening := by
  rw [closing?] at h
  split at h
  · rename_i hbrace
    exact .inl ⟨hbrace, (Option.some.inj h).symm⟩
  · split at h
    · rename_i hdelimiter
      exact .inr ⟨hdelimiter, (Option.some.inj h).symm⟩
    · exact absurd h (by simp)

/-- Of the delimited patterns, the turnip notation leaves those without letters behind them,
except for the ones between braces. -/
theorem isDelimited_iff_of_parts? (h : parts? pattern = some parts) :
    Turnip.isDelimited pattern = true ↔ parts.trailing = [] ∧ parts.opening ≠ '\x7b' := by
  have hmodifiers := mem_modifiers_of_parts? h
  obtain ⟨closing, hclosing, rfl⟩ := eq_append_of_parts? h
  have hends : Turnip.isDelimited (parts.opening :: parts.body ++ closing :: parts.trailing) =
      (parts.opening = parts.trailing.getLast?.getD closing &&
        parts.opening ∈ Turnip.delimiters) := by
    rw [Turnip.isDelimited, List.getLast?_append, List.getLast?_cons]
    rfl
  rw [hends, Bool.and_eq_true, decide_eq_true_eq, decide_eq_true_eq]
  cases htrailing : parts.trailing with
  | nil =>
      rcases closing_of_closing? hclosing with ⟨hbrace, rfl⟩ | ⟨hdelimiter, rfl⟩
      · rw [hbrace]
        decide
      · have hbrace : parts.opening ≠ '\x7b' := by
          intro heq
          rw [heq] at hdelimiter
          exact absurd hdelimiter (by decide)
        simp [hdelimiter, hbrace]
  | cons c others =>
      -- The last character is a modifier, and no delimiter is one.
      have hlast : (c :: others).getLast? =
          some ((c :: others).getLast (List.cons_ne_nil c others)) :=
        List.getLast?_eq_some_getLast _
      rw [htrailing] at hmodifiers
      have hmodifier := hmodifiers _ (List.mem_of_getLast? hlast)
      have hapart : modifiers.all (· ∉ Turnip.delimiters) = true := by decide
      rw [hlast, Option.getD_some]
      constructor
      · rintro ⟨heq, hdelimiter⟩
        rw [← heq] at hmodifier
        exact absurd hdelimiter (of_decide_eq_true (List.all_eq_true.mp hapart _ hmodifier))
      · rintro ⟨hnil, -⟩
        exact absurd hnil (List.cons_ne_nil c others)

/-! The lengths of expressions. -/

/-- Removing backslashes makes no text longer. -/
theorem length_unescape_le (chars text : List Char) :
    (unescape chars text).length ≤ text.length := by
  fun_induction unescape chars text with
  | case1 => exact Nat.le_refl _
  | case2 => exact Nat.le_refl _
  | case3 d rest hd ih =>
      simp only [List.length_cons]
      omega
  | case4 d rest hd ih =>
      simp only [List.length_cons]
      omega
  | case5 c d rest hc ih =>
      simp only [List.length_cons] at ih ⊢
      omega

theorem length_expression_le (parts : Parts) : parts.expression.length ≤ parts.body.length := by
  rw [Parts.expression]
  split
  · exact Nat.le_refl _
  · exact length_unescape_le _ _

end Stepwise.Delimited

namespace Stepwise.Turnip

/-- The expression of an item is not shorter than the item. -/
theorem Item.length_text_le (item : Item) : item.text.length ≤ item.source.length := by
  cases item with
  | char c =>
      rw [Item.text, Item.source]
      split
      · exact Nat.le_succ 1
      · exact Nat.le_refl _
  | placeholder name =>
      simp only [Item.text, Item.source, Item.quoted, placeholderGroups_eq, List.length_append,
        List.length_cons]
      omega
  | optional lead text trail =>
      have hspace (space : Option Char) : space.toList.length ≤ (maybeSpace space).length := by
        cases space with
        | none => exact Nat.le_refl _
        | some c => exact Nat.le_of_ble_eq_true rfl
      have hlead := hspace lead
      have htrail := hspace trail
      have hmaybe : (maybe text).length = text.length + 5 := by simp [maybe]
      simp only [Item.text, Item.source, Item.quoted, List.length_append, List.length_cons]
      omega
  | choice left right =>
      simp [Item.text, Item.source, Item.quoted]
      omega

/-- The expression of a pattern is longer than the pattern. -/
theorem length_lt_length_toRegex (pattern : List Char) :
    pattern.length < (toRegex pattern).length := by
  have hitems (row : List Item) :
      (row.flatMap Item.text).length ≤ (row.flatMap Item.source).length := by
    induction row with
    | nil => exact Nat.le_refl _
    | cons item row ih =>
        rw [List.flatMap_cons, List.flatMap_cons, List.length_append, List.length_append]
        exact Nat.add_le_add item.length_text_le ih
  have hpattern := hitems (items pattern)
  rw [flatMap_text_items] at hpattern
  rw [toRegex_eq_source, List.length_cons, List.length_append]
  omega

end Stepwise.Turnip

namespace Stepwise.Delimited

variable {pattern : List Char} {parts : Parts}

/-- The expression of a delimited pattern is not the one that it has as a turnip pattern: with
flags in front it begins with a parenthesis, and without them it is shorter. -/
theorem toRegex_ne_turnip (h : parts? pattern = some parts) :
    toRegex pattern ≠ Turnip.toRegex pattern := by
  rw [toRegex, h]
  change parts.toRegex ≠ Turnip.toRegex pattern
  rw [Parts.toRegex]
  intro heq
  split at heq
  · obtain ⟨closing, -, hpattern⟩ := eq_append_of_parts? h
    have hexpression := length_expression_le parts
    have hlength := Turnip.length_lt_length_toRegex pattern
    rw [← heq, hpattern, List.length_append, List.length_cons, List.length_cons] at hlength
    omega
  · rw [Turnip.toRegex_eq_source] at heq
    exact absurd (List.cons.inj heq).1 (by decide)

/-! What the standard registry does. -/

theorem compileWithin_standard_of_notation? {source : String} {used : Notation}
    (h : Registry.standard.notation? source = some used) (limit : Option Nat) :
    (Registry.standard.compileWithin limit source).value.2 =
      .ok (Matcher.ofSourceWithin limit (used.toRegex source)) := by
  have hlookup : Registry.standard.lookup? source = none := rfl
  rw [Registry.compileWithin, hlookup, h]
  rfl

/-- The standard registry compiles a delimited pattern to a matcher, the source of which is the
expression of the pattern exactly if there are no letters behind the pattern and it is not
between braces. Otherwise it is the expression of a turnip pattern. -/
theorem source_compileWithin_standard {source : String} {parts : Parts}
    (h : parts? source.toList = some parts) (limit : Option Nat) :
    ∃ matcher, (Registry.standard.compileWithin limit source).value.2 = .ok matcher ∧
      (matcher.source = delimitedNotation.toRegex source ↔
        parts.trailing = [] ∧ parts.opening ≠ '\x7b') ∧
      (¬(parts.trailing = [] ∧ parts.opening ≠ '\x7b') →
        matcher.source = turnipNotation.toRegex source) := by
  have hiff := isDelimited_iff_of_parts? h
  by_cases hparts : parts.trailing = [] ∧ parts.opening ≠ '\x7b'
  · have hnotation : Registry.standard.notation? source = some delimitedNotation := by
      have hturnip : turnipNotation.accepts source = false := by
        simp only [turnipNotation, turnipNotationBy, hiff.mpr hparts, Bool.not_true]
      have hdelimited : delimitedNotation.accepts source = true := by
        simp only [delimitedNotation, delimitedNotationBy, h, Option.isSome_some]
      simp only [Registry.notation?, Registry.standard, List.find?_cons, hturnip, hdelimited]
    refine ⟨_, compileWithin_standard_of_notation? hnotation limit, ?_, ?_⟩
    · exact iff_of_true rfl hparts
    · intro hnot
      exact absurd hparts hnot
  · have hturnip : turnipNotation.accepts source = true := by
      have hdelimited : Turnip.isDelimited source.toList = false :=
        Bool.eq_false_iff.mpr fun hdelimited => hparts (hiff.mp hdelimited)
      simp only [turnipNotation, turnipNotationBy, hdelimited, Bool.not_false]
    have hnotation : Registry.standard.notation? source = some turnipNotation := by
      simp only [Registry.notation?, Registry.standard, List.find?_cons, hturnip]
    refine ⟨_, compileWithin_standard_of_notation? hnotation limit, ?_, fun _ => rfl⟩
    refine iff_of_false ?_ hparts
    intro heq
    exact toRegex_ne_turnip h (String.ofList_injective heq).symm

/-- A delimited pattern with a letter behind it is compiled as a turnip pattern. -/
theorem source_compileWithin_standard_flagged :
    parts? "/^foo$/i".toList = some ⟨'/', ['^', 'f', 'o', 'o', '$'], ['i']⟩ ∧
      ∃ matcher, (Registry.standard.compileWithin none "/^foo$/i").value.2 = .ok matcher ∧
        matcher.source ≠ delimitedNotation.toRegex "/^foo$/i" ∧
        matcher.source = turnipNotation.toRegex "/^foo$/i" := by
  have hparts : parts? "/^foo$/i".toList = some ⟨'/', ['^', 'f', 'o', 'o', '$'], ['i']⟩ := by
    decide
  obtain ⟨matcher, hcompile, hiff, hturnip⟩ := source_compileWithin_standard hparts none
  have hflagged : ¬(['i'] = [] ∧ '/' ≠ '\x7b') := by simp
  exact ⟨hparts, matcher, hcompile, fun heq => hflagged (hiff.mp heq), hturnip hflagged⟩

end Stepwise.Delimited
