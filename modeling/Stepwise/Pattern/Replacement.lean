/-!
# Replacement by rules

A rule is tried at every place of a text from left to right. Where it applies, its
replacement is put out and the text behind the replaced part is searched further;
replacements are not looked at again.
-/

namespace Stepwise

/-- A rule takes a part from the front of a text. It gives the replacement of the part
and what follows it. -/
abbrev ReplacementRule := List Char → Option (List Char × List Char)

/-- Applies a rule throughout a text. A rule has to take at least one character. -/
def ReplacementRule.replaceAll (rule : ReplacementRule) : List Char → List Char
  | [] => []
  | c :: rest =>
      match rule (c :: rest) with
      | none => c :: rule.replaceAll rest
      | some (replacement, after) =>
          if after.length ≤ rest.length then replacement ++ rule.replaceAll after
          else c :: rule.replaceAll rest
termination_by text => text.length

/-- A text to which the rule applies nowhere stays as it is. -/
theorem ReplacementRule.replaceAll_eq_self (rule : ReplacementRule) (text : List Char)
    (h : ∀ suffix, suffix <:+ text → rule suffix = none) :
    rule.replaceAll text = text := by
  induction text with
  | nil => rw [replaceAll]
  | cons c rest ih =>
      rw [replaceAll, h (c :: rest) (List.suffix_refl _)]
      simp only [List.cons.injEq, true_and]
      exact ih fun suffix hs => h suffix (hs.trans (List.suffix_cons c rest))

end Stepwise
