import Stepwise.Proofs.Unicode.Tables
import Stepwise.Regex.Lexeme

/-!
# Reading between blanks

Several readers skip blanks and comments between the characters that they read. Main statement:
they are one reader for characters of different kinds.
-/

namespace Stepwise.Regex

/-- Reads characters of some kind, which blanks and comments may separate in verbose mode. -/
def spanApart (p : Char → Bool) (verbose : Bool) (inComment : Bool) :
    List Char → List Char × List Char
  | [] => ([], [])
  | c :: rest =>
      if inComment then spanApart p verbose (c ≠ '\n') rest
      else if verbose && Unicode.isSpace c then spanApart p verbose false rest
      else if verbose && c = '#' then spanApart p verbose true rest
      else if p c then
        let (text, after) := spanApart p verbose false rest
        (c :: text, after)
      else ([], c :: rest)

variable {p : Char → Bool} {verbose inComment : Bool} {source text after : List Char}

theorem forall_of_spanApart (h : spanApart p verbose inComment source = (text, after)) :
    ∀ c ∈ text, p c = true := by
  fun_induction spanApart p verbose inComment source generalizing text with
  | _ => grind

theorem spanApart_length_le (h : spanApart p verbose inComment source = (text, after)) :
    after.length ≤ source.length := by
  fun_induction spanApart p verbose inComment source generalizing text with
  | _ => grind

theorem spanApart_cons {c : Char} (hspace : Unicode.isSpace c = false)
    (hsign : verbose = true → c ≠ '#') (rest : List Char) :
    spanApart p verbose false (c :: rest) =
      if p c then (c :: (spanApart p verbose false rest).1, (spanApart p verbose false rest).2)
      else ([], c :: rest) := by
  have hboth : (verbose && decide (c = '#')) = false := by
    cases verbose with
    | false => rfl
    | true => simpa using hsign rfl
  simp [spanApart, hspace, hboth]

/-- A text without a backslash ends in front of one. -/
theorem eq_of_spanApart_backslash {rest : List Char} (htext : '\\' ∉ text)
    (h : spanApart p verbose false ('\\' :: rest) = (text, after)) :
    p '\\' = false ∧ text = [] ∧ after = '\\' :: rest := by
  rw [spanApart_cons (by decide) (fun _ => by decide)] at h
  split at h
  · cases h
    exact absurd List.mem_cons_self htext
  · rename_i hp
    cases h
    exact ⟨Bool.eq_false_iff.mpr hp, rfl, rfl⟩

/-! The readers. -/

theorem dropBlanks_eq (inComment : Bool) (source : List Char) :
    dropBlanks inComment source = (spanApart (fun _ => false) true inComment source).2 := by
  fun_induction dropBlanks inComment source with
  | _ => grind [spanApart]

theorem skipBlanks_eq (verbose : Bool) (source : List Char) :
    skipBlanks verbose source = (spanApart (fun _ => false) verbose false source).2 := by
  cases verbose with
  | true => exact dropBlanks_eq false source
  | false => cases source <;> rfl

/-- A closing brace is no blank, so it may be looked for behind the blanks. -/
theorem untilBrace_eq_some_iff :
    untilBrace verbose inComment source = some (text, after) ↔
      spanApart (· ≠ '\x7d') verbose inComment source = (text, '\x7d' :: after) := by
  have hspace : Unicode.isSpace '\x7d' = false := by decide
  fun_induction untilBrace verbose inComment source generalizing text with
  | case6 inComment c rest hcomment hbrace hblank hsign ih =>
      rw [spanApart, if_neg hcomment, if_neg hblank, if_neg hsign, if_pos (by simpa using hbrace)]
      simp only [Option.map_eq_some_iff, Prod.exists, Prod.mk.injEq]
      grind
  | _ => grind [spanApart]

theorem spanDigits_eq (verbose inComment : Bool) (source : List Char) :
    spanDigits verbose inComment source = spanApart Char.isDigit verbose inComment source := by
  have hspace {c : Char} (h : c.isDigit = true) : Unicode.isSpace c = false :=
    Unicode.isSpace_of_has_decimalNumber (Unicode.has_decimalNumber_of_isDigit h)
  have hsign {c : Char} (h : c.isDigit = true) : c ≠ '#' := by
    rintro rfl
    cases h
  fun_induction spanDigits verbose inComment source with
  | _ => grind [spanApart]

theorem leadingHyphens_eq (verbose inComment : Bool) (source : List Char) :
    leadingHyphens verbose inComment source =
      ((spanApart (· = '-') verbose inComment source).1.map fun c => .literal ⟨c, false⟩,
        (spanApart (· = '-') verbose inComment source).2) := by
  fun_induction leadingHyphens verbose inComment source with
  | _ => grind [spanApart]

end Stepwise.Regex
