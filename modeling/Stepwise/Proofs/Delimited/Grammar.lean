import Mathlib.Data.List.Basic
import Stepwise.Proofs.Pattern.Precedence
import Stepwise.Proofs.Pattern.Units

/-!
# The grammar of delimited patterns

A delimited pattern is an expression between two delimiters with modifiers behind them. Main
statement: the notation takes exactly these patterns, each can be read in one way only, and its
regular expression is made of the flags, each once, and of the expression with the delimiter
unescaped.
-/

namespace Stepwise.Delimited

/-- A pattern is written with its parts between some delimiters. -/
structure Parts.Written (parts : Parts) (pattern : List Char) : Prop where
  text : ∃ closing,
    (parts.opening, closing) ∈ [('/', '/'), ('~', '~'), ('#', '#'), ('`', '`'), ('\x7b', '\x7d')] ∧
      pattern = parts.opening :: parts.body ++ closing :: parts.trailing
  trailing : ∀ c ∈ parts.trailing, c ∈ ['i', 'm', 's', 'x', 'A', 'D', 'S', 'U', 'X', 'J', 'u']

variable {parts : Parts} {pattern : List Char} {opening closing : Char}

/-! Which texts are delimited patterns. -/

theorem closing?_eq_some_iff :
    closing? opening = some closing ↔
      (opening, closing) ∈
        [('/', '/'), ('~', '~'), ('#', '#'), ('`', '`'), ('\x7b', '\x7d')] := by
  constructor
  · intro h
    rcases closing_of_closing? h with ⟨rfl, rfl⟩ | ⟨hdelimiter, rfl⟩
    · decide
    · simp only [Turnip.delimiters, List.mem_cons, List.not_mem_nil, or_false] at hdelimiter
      rcases hdelimiter with rfl | rfl | rfl | rfl <;> decide
  · intro h
    simp only [List.mem_cons, Prod.mk.injEq, List.not_mem_nil, or_false] at h
    rcases h with ⟨rfl, rfl⟩ | ⟨rfl, rfl⟩ | ⟨rfl, rfl⟩ | ⟨rfl, rfl⟩ | ⟨rfl, rfl⟩ <;> decide

/-- No delimiter that closes a pattern is a modifier. -/
theorem closing_not_mem_modifiers (h : closing? opening = some closing) :
    closing ∉ modifiers := by
  rw [closing?_eq_some_iff] at h
  simp only [List.mem_cons, Prod.mk.injEq, List.not_mem_nil, or_false] at h
  rcases h with ⟨-, rfl⟩ | ⟨-, rfl⟩ | ⟨-, rfl⟩ | ⟨-, rfl⟩ | ⟨-, rfl⟩ <;> decide

/-- A text is split at a character that does not follow. -/
theorem splitLast?_append {c : Char} {after : List Char} (h : c ∉ after) (before : List Char) :
    splitLast? c (before ++ c :: after) = some (before, after) := by
  induction before with
  | nil =>
      have hnone : splitLast? c after = none := by
        cases hsplit : splitLast? c after with
        | none => rfl
        | some parts =>
            obtain ⟨heq, -⟩ := eq_append_of_splitLast? hsplit
            exact absurd (heq ▸ List.mem_append_right _ List.mem_cons_self) h
      rw [List.nil_append, splitLast?, hnone]
      exact if_pos rfl
  | cons d before ih => rw [List.cons_append, splitLast?, ih]

/-- A pattern has some parts exactly if it is written with them. -/
theorem parts?_eq_some_iff : parts? pattern = some parts ↔ parts.Written pattern := by
  constructor
  · intro h
    obtain ⟨closing, hclosing, hpattern⟩ := eq_append_of_parts? h
    exact ⟨⟨closing, closing?_eq_some_iff.mp hclosing, hpattern⟩, mem_modifiers_of_parts? h⟩
  · rintro ⟨⟨closing, hdelimiters, rfl⟩, hmodifiers⟩
    have hclosing := closing?_eq_some_iff.mpr hdelimiters
    have hnot : closing ∉ parts.trailing :=
      fun hmem => closing_not_mem_modifiers hclosing (hmodifiers closing hmem)
    have hall : parts.trailing.all (· ∈ modifiers) = true := by
      simpa [modifiers] using hmodifiers
    rw [List.cons_append, parts?, hclosing]
    simp only [splitLast?_append hnot, hall, ↓reduceIte]

/-! The flags of a pattern. -/

/-- The first of several equal members is kept, so members come in the order in which they occur
first, also among others. -/
theorem pairwise_idxOf_eraseDups (p : Char → Bool) (l : List Char) :
    (l.filter p).eraseDups.Pairwise fun a b => l.idxOf a < l.idxOf b := by
  induction l generalizing p with
  | nil => exact List.Pairwise.nil
  | cons c l ih =>
      -- Behind the first member the places are those in the rest, moved by one.
      have hmove {q : Char → Bool} (hq : ∀ a, q a = true → c ≠ a) :
          (l.filter q).eraseDups.Pairwise fun a b => (c :: l).idxOf a < (c :: l).idxOf b := by
        have hne : ∀ a ∈ (l.filter q).eraseDups, c ≠ a :=
          fun a ha => hq a (List.mem_filter.mp (List.mem_eraseDups.mp ha)).2
        refine (ih q).imp_of_mem fun {a b} ha hb hlt => ?_
        rw [List.idxOf_cons_ne l (hne a ha), List.idxOf_cons_ne l (hne b hb)]
        exact Nat.succ_lt_succ hlt
      by_cases hc : p c = true
      · rw [List.filter_cons_of_pos hc, List.eraseDups_cons, List.filter_filter, List.pairwise_cons]
        have hrest : ∀ a, (!a == c && p a) = true → c ≠ a := by
          intro a ha heq
          simp [heq] at ha
        refine ⟨fun b hb => ?_, hmove hrest⟩
        have hne := hrest b (List.mem_filter.mp (List.mem_eraseDups.mp hb)).2
        rw [List.idxOf_cons_self, List.idxOf_cons_ne l hne]
        exact Nat.succ_pos _
      · rw [List.filter_cons_of_neg hc]
        exact hmove fun a ha heq => hc (heq ▸ ha)

theorem mem_inlineFlags_iff (parts : Parts) (c : Char) :
    c ∈ parts.inlineFlags ↔ c ∈ parts.trailing ∧ c ∈ ['i', 'm', 's', 'x', 'U'] := by
  rw [Parts.inlineFlags, List.mem_eraseDups, List.mem_filter, decide_eq_true_eq, flags]

theorem pairwise_idxOf_inlineFlags (parts : Parts) :
    parts.inlineFlags.Pairwise fun a b => parts.trailing.idxOf a < parts.trailing.idxOf b :=
  pairwise_idxOf_eraseDups (· ∈ flags) parts.trailing

/-! The expression of a pattern. -/

theorem toRegex_eq_append (parts : Parts) :
    parts.toRegex =
      (if parts.inlineFlags = [] then [] else '(' :: '?' :: parts.inlineFlags ++ [')']) ++
        parts.expression := by
  rw [Parts.toRegex]
  cases parts.inlineFlags with
  | nil => rfl
  | cons c letters => simp

/-- The notation takes exactly the patterns that are written between delimiters with modifiers
behind them, and the parts of such a pattern are the only ones that it is written with. The
regular expression of the pattern begins with the flags, if there are any: those of the modifiers
that are flags, each once, in the order in which they occur first. What follows is the body as it
is, if it stands between braces. Otherwise it is the body, read in units, of which the pairs of
the delimiter, and no others, lose their backslashes. -/
theorem delimitedNotation_grammar (pattern : String) :
    (delimitedNotation.accepts pattern = true ↔ ∃ parts : Parts, parts.Written pattern.toList) ∧
      (∀ parts other : Parts, parts.Written pattern.toList → other.Written pattern.toList →
        parts = other) ∧
      ∀ parts : Parts, parts.Written pattern.toList →
        ∃ letters expression : List Char,
          delimitedNotation.toRegex pattern =
              String.ofList
                ((if letters = [] then [] else '(' :: '?' :: letters ++ [')']) ++ expression) ∧
            (∀ c, c ∈ letters ↔ c ∈ parts.trailing ∧ c ∈ ['i', 'm', 's', 'x', 'U']) ∧
            letters.Nodup ∧
            letters.Pairwise (fun a b => parts.trailing.idxOf a < parts.trailing.idxOf b) ∧
            (parts.opening = '\x7b' → expression = parts.body) ∧
            (parts.opening ≠ '\x7b' → ∃ units, InUnits parts.body units ∧
              expression = units.flatMap (bareUnit [parts.opening])) := by
  refine ⟨?_, ?_, ?_⟩
  · change (parts? pattern.toList).isSome = true ↔ _
    rw [Option.isSome_iff_exists]
    exact exists_congr fun parts => parts?_eq_some_iff
  · intro parts other hparts hother
    have hsome := parts?_eq_some_iff.mpr hparts
    rw [parts?_eq_some_iff.mpr hother] at hsome
    exact (Option.some.inj hsome).symm
  · intro parts hparts
    have hordered := pairwise_idxOf_inlineFlags parts
    refine ⟨parts.inlineFlags, parts.expression, ?_, mem_inlineFlags_iff parts, ?_, hordered,
      ?_, ?_⟩
    · change String.ofList (toRegex pattern.toList) = _
      rw [toRegex, parts?_eq_some_iff.mpr hparts]
      exact congrArg String.ofList (toRegex_eq_append parts)
    · refine hordered.imp fun {a b} hlt heq => ?_
      rw [heq] at hlt
      exact Nat.lt_irrefl _ hlt
    · intro hbrace
      rw [Parts.expression, if_pos hbrace]
    · intro hbrace
      obtain ⟨units, hunits⟩ := exists_inUnits parts.body
      refine ⟨units, hunits, ?_⟩
      rw [Parts.expression, if_neg hbrace, hunits.unescape_eq]

/-- The last delimiter closes a pattern, and the second half of a pair is no delimiter. -/
example : parts? "/a/\\\\/i".toList = some ⟨'/', ['a', '/', '\\', '\\'], ['i']⟩ ∧
    toRegex "/a\\\\\\/b/xix".toList = "(?xi)a\\\\/b".toList := by
  decide

end Stepwise.Delimited
