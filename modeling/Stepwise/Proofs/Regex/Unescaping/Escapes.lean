import Stepwise.Proofs.Regex.Properties
import Stepwise.Proofs.Regex.Unescaping.Blanks

/-!
# Escapes without the escapes of a delimiter

Main statement: an escape that can be compiled is read from a text without the escapes of a
delimiter, too, and the same is left.
-/

namespace Stepwise.Regex

variable {d : Char} {verbose : Bool} {source after : List Char}

theorem mapM_hexValue?_of_mem {digits : List Char} (h : '\\' ∈ digits) :
    digits.mapM hexValue? = none := by
  induction digits with
  | nil => cases h
  | cons c rest ih =>
      rw [List.mapM_cons]
      rcases List.mem_cons.mp h with rfl | h
      · rfl
      · rw [ih h]
        cases hexValue? c <;> rfl

theorem backslash_not_mem_of_charOfHex {digits : List Char} {c : Char}
    (h : charOfHex digits = .ok c) : '\\' ∉ digits := by
  intro hmem
  have hnone := mapM_hexValue?_of_mem hmem
  simp [charOfHex, hnone, throw, throwThe, MonadExceptOf.throw] at h

theorem settled_of_fixedDigits {n : Nat} {digits : List Char} (hdigits : '\\' ∉ digits)
    (h : fixedDigits verbose n (skipBlanks verbose source) = .ok (digits, after))
    (hafter : Settled verbose d after) : Settled verbose d source := by
  cases n with
  | zero =>
      cases h
      exact settled_skipBlanks.mp hafter
  | succ n =>
      refine settled_of_backslash fun rest hstart => ?_
      rw [hstart, fixedDigits] at h
      obtain ⟨⟨digits, left⟩, -, heq⟩ := bind_eq_ok.mp h
      cases heq
      exact absurd List.mem_cons_self hdigits

theorem eq_append_of_splitAtWord {word text left right : List Char}
    (h : splitAtWord word text = some (left, right)) : text = left ++ (word ++ right) := by
  induction text generalizing left with
  | nil => cases h
  | cons c rest ih =>
      rw [splitAtWord] at h
      split at h
      · rename_i hword
        cases h
        obtain ⟨behind, heq⟩ := List.isPrefixOf_iff_prefix.mp hword
        rw [← heq, List.drop_left, List.nil_append]
      · obtain ⟨⟨before, behind⟩, hrest, heq⟩ := Option.map_eq_some_iff.mp h
        cases heq
        rw [ih hrest, List.cons_append]

theorem PropertyQuery.backslash_not_mem_of_isClean {text : List Char} (h : (ofText text).IsClean) :
    '\\' ∉ text := by
  unfold ofText at h
  split at h
  · rename_i left right heq
    rw [eq_append_of_splitAtWord heq]
    simp_all [IsClean]
  · split at h
    · rename_i left right heq
      rw [Option.orElse_eq_orElse, Option.orElse_eq_or] at heq
      rcases Option.or_eq_some_iff.mp heq with heq | ⟨-, heq⟩
      · rw [eq_append_of_splitAtWord heq]
        simp_all [IsClean]
      · rw [eq_append_of_splitAtWord heq]
        simp_all [IsClean]
    · simpa [IsClean] using h

section Readers

variable (hd : d ∈ Turnip.delimiters)

include hd

theorem untilBrace_unescape {text : List Char} (htext : '\\' ∉ text)
    (h : untilBrace verbose false source = some (text, after)) :
    untilBrace verbose false (unescape [d] source) = some (text, unescape [d] after) := by
  rw [untilBrace_eq_some_iff] at h ⊢
  have hbrace : Settled verbose d ('\x7d' :: after) :=
    settled_of_cons (by decide) (skipBlanks_cons (by decide) (by decide) after)
  rw [spanApart_unescape hd (fun _ => by decide) htext h hbrace, unescape_cons (by decide)]

theorem fixedDigits_unescape {n : Nat} {digits : List Char} (hdigits : '\\' ∉ digits)
    (h : fixedDigits verbose n source = .ok (digits, after)) (hafter : Settled verbose d after) :
    fixedDigits verbose n (unescape [d] source) = .ok (digits, unescape [d] after) := by
  induction n generalizing source digits with
  | zero =>
      cases h
      rfl
  | succ n ih =>
      cases source with
      | nil => cases h
      | cons c rest =>
          rw [fixedDigits, bind_eq_ok] at h
          obtain ⟨⟨digits, left⟩, hrest, heq⟩ := h
          cases heq
          rw [List.mem_cons, not_or] at hdigits
          have hsettled := settled_of_fixedDigits hdigits.2 hrest hafter
          rw [unescape_cons (Ne.symm hdigits.1), fixedDigits, skipBlanks_unescape hd hsettled,
            ih hdigits.2 hrest]
          rfl

theorem codePointEscape_unescape {width : Nat} {l : Literal}
    (h : codePointEscape verbose width source = .ok (l, after))
    (hafter : Settled verbose d after) :
    codePointEscape verbose width (unescape [d] source) = .ok (l, unescape [d] after) := by
  unfold codePointEscape at h
  split at h
  · rename_i rest heq
    split at h
    · rename_i digits left hbrace
      obtain ⟨c, hc, heq'⟩ := bind_eq_ok.mp h
      cases heq'
      have hdigits := backslash_not_mem_of_charOfHex hc
      rw [codePointEscape, skipBlanks_unescape_cons hd (by decide) heq]
      simp only [untilBrace_unescape hd hdigits hbrace, hc]
      rfl
    · cases h
  · rename_i hbrace
    obtain ⟨⟨digits, left⟩, hread, h⟩ := bind_eq_ok.mp h
    obtain ⟨c, hc, heq⟩ := bind_eq_ok.mp h
    cases heq
    have hdigits := backslash_not_mem_of_charOfHex hc
    rw [codePointEscape, skipBlanks_unescape hd (settled_of_fixedDigits hdigits hread hafter)]
    split
    · rename_i rest heq
      obtain ⟨written, heq, -⟩ := exists_of_unescape_eq_cons hd (by decide) heq
      exact absurd heq (hbrace written)
    · simp only [fixedDigits_unescape hd hdigits hread hafter, bind, Except.bind, hc]
      rfl

theorem propertyEscape_unescape {query : PropertyQuery} (hquery : query.IsClean)
    (h : propertyEscape verbose source = .ok (query, after)) :
    propertyEscape verbose (unescape [d] source) = .ok (query, unescape [d] after) := by
  unfold propertyEscape at h
  split at h
  · cases h
  · rename_i rest heq
    split at h
    · cases h
    · rename_i text left hbrace
      cases h
      have htext := PropertyQuery.backslash_not_mem_of_isClean hquery
      rw [propertyEscape, skipBlanks_unescape_cons hd (by decide) heq]
      simp only [untilBrace_unescape hd htext hbrace]
  · cases h
  · rename_i c rest hbrace hslash heq
    cases h
    have hc : c ≠ '\\' := hslash
    rw [propertyEscape, skipBlanks_unescape_cons hd hc heq]
    simp

/-- Braces behind a word boundary that hold no name are left, so what is in them is not read
yet. -/
theorem boundaryName_unescape {edge : WordEdge}
    (h : boundaryName verbose source = .ok (edge, after))
    (hafter : ∀ rest, after = '\x7b' :: rest → Settled verbose d rest) :
    boundaryName verbose (unescape [d] source) = .ok (edge, unescape [d] after) := by
  unfold boundaryName at h
  split at h
  · rename_i rest
    rw [unescape_cons (by decide), boundaryName]
    split at h
    · cases h
    · rename_i c left heq
      split at h
      · rename_i hc
        have hslash : c ≠ '\\' := by
          rintro rfl
          exact absurd hc (by decide)
        rw [skipBlanks_unescape_cons hd hslash heq]
        simp only [hc, ↓reduceIte]
        split at h
        · cases h
        · rename_i text behind hbrace
          split at h
          case h_5 => cases h
          all_goals
            rename_i hname
            cases h
            have htext : '\\' ∉ text := by
              rw [← String.toList_ofList (l := text), hname]
              decide
            simp only [untilBrace_unescape hd htext hbrace, hname]
      · rename_i hc
        cases h
        obtain ⟨b, behind, hb, hbc⟩ := exists_unescape_cons [d] c left
        have hkeep : ¬(b.isAlpha || b = '-') := by
          rcases hbc with rfl | ⟨-, hbc, -⟩
          · exact hc
          · rw [List.mem_singleton] at hbc
            subst hbc
            simp [isAlpha_delimiter hd, Ne.symm (ne_of_mem_delimiters hd (by decide : '-' ∉ _))]
        rw [skipBlanks_unescape hd (hafter rest rfl), heq, hb]
        simp only [hkeep, Bool.false_eq_true, ↓reduceIte]
        rw [unescape_cons (by decide)]
  · rename_i hbrace
    cases h
    unfold boundaryName
    split
    · rename_i rest heq
      obtain ⟨written, heq, -⟩ := exists_of_unescape_eq_cons hd (by decide) heq
      exact absurd heq (hbrace written)
    · rfl

theorem Escape.read_delimiter (rest : List Char) :
    Escape.read verbose (d :: rest) = .ok (.literal ⟨d, false⟩, rest) :=
  if_pos (isQuoted_delimiter hd)

theorem Escape.read_unescape {escape : Escape} (hclean : escape.IsClean) {c : Char}
    (h : Escape.read verbose (c :: source) = .ok (escape, after))
    (hafter : Settled verbose d after)
    (hbrace : ∀ edge rest, escape = .anchor (.edge edge) → after = '\x7b' :: rest →
      Settled verbose d rest) :
    Escape.read verbose (c :: unescape [d] source) = .ok (escape, unescape [d] after) := by
  unfold Escape.read at h ⊢
  simp only at h ⊢
  split at h
  · rename_i hquoted
    cases h
    rw [if_pos hquoted]
  rename_i hquoted
  rw [if_neg hquoted]
  split at h
  · cases h
  rename_i hdigit
  rw [if_neg hdigit]
  split at h
  · cases h
    rfl
  split at h
  · exact map_eq_ok_of h fun l hread => codePointEscape_unescape hd hread hafter
  · exact map_eq_ok_of h fun l hread => codePointEscape_unescape hd hread hafter
  · exact map_eq_ok_of h fun l hread => codePointEscape_unescape hd hread hafter
  · obtain ⟨⟨query, left⟩, hread, heq⟩ := map_eq_ok.mp h
    cases heq
    rw [propertyEscape_unescape hd hclean hread]
    rfl
  · obtain ⟨⟨query, left⟩, hread, heq⟩ := map_eq_ok.mp h
    cases heq
    rw [propertyEscape_unescape hd hclean hread]
    rfl
  · obtain ⟨⟨edge, left⟩, hread, heq⟩ := map_eq_ok.mp h
    cases heq
    rw [boundaryName_unescape hd hread (hbrace edge · rfl)]
    rfl
  · cases h

end Readers

end Stepwise.Regex
