import Stepwise.Pattern.Turnip
import Stepwise.Proofs.Pattern.Units
import Stepwise.Proofs.Regex.Blanks

/-!
# Blanks without the escapes of a delimiter

No delimiter is a blank, but a number sign begins a comment where blanks are skipped. Main
statement: what is read between blanks is read from a text without the escapes of a delimiter, too,
unless a number sign needs its backslash.
-/

namespace Stepwise.Regex

/-! Delimiters. -/

section Delimiters

variable {d : Char} (hd : d ∈ Turnip.delimiters)

include hd

theorem ne_of_mem_delimiters {c : Char} (hc : c ∉ Turnip.delimiters) : c ≠ d := by
  rintro rfl
  exact hc hd

theorem not_mem_singleton {c : Char} (hc : c ∉ Turnip.delimiters) : c ∉ [d] := by
  rw [List.mem_singleton]
  exact ne_of_mem_delimiters hd hc

theorem isSpace_delimiter : Unicode.isSpace d = false := by
  have hall : Turnip.delimiters.all (!Unicode.isSpace ·) = true := by decide
  simpa using List.all_eq_true.mp hall d hd

theorem isAlpha_delimiter : d.isAlpha = false := by
  have hall : Turnip.delimiters.all (!Char.isAlpha ·) = true := by decide
  simpa using List.all_eq_true.mp hall d hd

theorem isDigit_delimiter : d.isDigit = false := by
  have hall : Turnip.delimiters.all (!Char.isDigit ·) = true := by decide
  simpa using List.all_eq_true.mp hall d hd

theorem isQuoted_delimiter : (isSpecial d || isQuotable d) = true :=
  List.all_eq_true.mp
    (by decide : Turnip.delimiters.all (fun c => isSpecial c || isQuotable c) = true) d hd

end Delimiters

/-- Whether a character is neither a backslash nor a delimiter. -/
def isOrdinary (c : Char) : Bool :=
  c ≠ '\\' && c ∉ Turnip.delimiters

theorem isOrdinary_iff {c : Char} :
    isOrdinary c = true ↔ c ≠ '\\' ∧ c ∉ Turnip.delimiters := by
  simp [isOrdinary]

theorem isOrdinary_of_isAlpha {c : Char} (h : c.isAlpha = true) : isOrdinary c = true := by
  refine isOrdinary_iff.mpr ⟨?_, fun hmem => ?_⟩
  · rintro rfl
    exact absurd h (by decide)
  · rw [isAlpha_delimiter hmem] at h
    cases h

/-- No number sign comes next that would begin a comment without its backslash. -/
def Settled (verbose : Bool) (d : Char) (source : List Char) : Prop :=
  verbose = true → d = '#' → ¬ ['\\', '#'] <+: skipBlanks verbose source

variable {d : Char} {verbose inComment : Bool} {source after : List Char}

theorem isSpace_backslash : Unicode.isSpace '\\' = false := by decide

theorem dropBlanks_dropBlanks (inComment : Bool) (source : List Char) :
    dropBlanks false (dropBlanks inComment source) = dropBlanks inComment source := by
  fun_induction dropBlanks inComment source with
  | _ => grind [dropBlanks]

theorem skipBlanks_skipBlanks (verbose : Bool) (source : List Char) :
    skipBlanks verbose (skipBlanks verbose source) = skipBlanks verbose source := by
  cases verbose with
  | false => rfl
  | true => exact dropBlanks_dropBlanks false source

theorem settled_skipBlanks : Settled verbose d (skipBlanks verbose source) ↔
    Settled verbose d source := by
  rw [Settled, skipBlanks_skipBlanks, Settled]

/-- It is enough to look at texts that begin with a backslash. -/
theorem settled_of_backslash
    (h : ∀ rest, skipBlanks verbose source = '\\' :: rest → Settled verbose d source) :
    Settled verbose d source := by
  rintro hv hsign ⟨comment, heq⟩
  exact h _ heq.symm hv hsign ⟨comment, heq⟩

theorem settled_of_cons {c : Char} {rest : List Char} (hc : c ≠ '\\')
    (h : skipBlanks verbose source = c :: rest) : Settled verbose d source := by
  refine settled_of_backslash fun tail hstart => ?_
  rw [h] at hstart
  exact absurd (List.cons.inj hstart).1 hc

theorem skipBlanks_cons {c : Char} (hspace : Unicode.isSpace c = false) (hsign : c ≠ '#')
    (rest : List Char) : skipBlanks verbose (c :: rest) = c :: rest := by
  cases verbose with
  | false => rfl
  | true => simp [skipBlanks, dropBlanks, hspace, hsign]

theorem skipBlanks_dropWhile (h : verbose = true) :
    skipBlanks verbose (source.dropWhile Unicode.isSpace) = skipBlanks verbose source := by
  subst h
  simp only [skipBlanks, ↓reduceIte]
  induction source with
  | nil => rfl
  | cons c rest ih =>
      rw [List.dropWhile_cons]
      split
      · rename_i hspace
        rw [ih, dropBlanks, if_neg (by decide), if_pos hspace]
      · rfl

section Readers

variable (hd : d ∈ Turnip.delimiters)

include hd

theorem exists_of_unescape_eq_cons {c : Char} (hc : isOrdinary c = true) {rest : List Char}
    (h : unescape [d] source = c :: rest) :
    ∃ written, source = c :: written ∧ unescape [d] written = rest := by
  obtain ⟨hslash, hdelimiter⟩ := isOrdinary_iff.mp hc
  exact (unescape_eq_cons_iff hslash (not_mem_singleton hd hdelimiter)).mp h

/-- A text that does not begin in some way does not begin so without the escapes of a delimiter. -/
theorem not_prefix_unescape {front : List Char}
    (hfront : front.all isOrdinary = true) (h : ¬ front <+: source) :
    ¬ front <+: unescape [d] source := by
  have hchars c (hc : c ∈ front) := isOrdinary_iff.mp (List.all_eq_true.mp hfront c hc)
  rwa [prefix_unescape_iff (fun hmem => (hchars '\\' hmem).1 rfl)
    fun c hc => not_mem_singleton hd (hchars c hc).2]

/-- What is read is kept if it has no backslash, and if a delimiter that ends it without its
backslash ends it with it, too. -/
theorem spanApart_unescape {p : Char → Bool} (hp : p d = true → p '\\' = true) {text : List Char}
    (htext : '\\' ∉ text) (h : spanApart p verbose inComment source = (text, after))
    (hafter : Settled verbose d after) :
    spanApart p verbose inComment (unescape [d] source) = (text, unescape [d] after) := by
  induction source using units_induction generalizing inComment text with
  | nil =>
      cases h
      rfl
  | single c rest alone ih =>
      rw [unescape_cons alone]
      rw [spanApart] at h ⊢
      split
      · rename_i hcomment
        rw [if_pos hcomment] at h
        exact ih htext h
      rename_i hcomment
      rw [if_neg hcomment] at h
      split
      · rename_i hspace
        rw [if_pos hspace] at h
        exact ih htext h
      rename_i hspace
      rw [if_neg hspace] at h
      split
      · rename_i hsign
        rw [if_pos hsign] at h
        exact ih htext h
      rename_i hsign
      rw [if_neg hsign] at h
      split
      · rename_i hchar
        rw [if_pos hchar] at h
        cases h
        rw [List.mem_cons, not_or] at htext
        rw [ih htext.2 rfl]
      · rename_i hchar
        rw [if_neg hchar] at h
        cases h
        rw [unescape_cons alone]
  | pair c rest ih =>
      cases inComment with
      | true =>
          have hskip : ∀ c rest, spanApart p verbose true ('\\' :: c :: rest) =
              spanApart p verbose (c ≠ '\n') rest := fun _ _ => rfl
          rw [hskip] at h
          rw [unescape_pair]
          split
          · rename_i hc
            rw [List.mem_singleton] at hc
            subst hc
            exact ih htext h
          · rw [hskip]
            exact ih htext h
      | false =>
          obtain ⟨hslash, rfl, rfl⟩ := eq_of_spanApart_backslash htext h
          have hstop rest : spanApart p verbose false ('\\' :: rest) = ([], '\\' :: rest) := by
            rw [spanApart_cons isSpace_backslash (fun _ => by decide), hslash]
            rfl
          rw [unescape_pair]
          split
          · rename_i hc
            rw [List.mem_singleton] at hc
            subst hc
            have hsign : verbose = true → c ≠ '#' := by
              rintro rfl rfl
              exact hafter rfl rfl (by simp [skipBlanks_cons isSpace_backslash])
            have hnot : ¬ p c = true := fun hc => by simp [hp hc] at hslash
            rw [spanApart_cons (isSpace_delimiter hd) hsign, if_neg hnot]
          · rw [hstop]
  | last =>
      cases inComment with
      | true =>
          cases h
          rfl
      | false =>
          obtain ⟨hslash, rfl, rfl⟩ := eq_of_spanApart_backslash htext h
          exact h

theorem skipBlanks_unescape (h : Settled verbose d source) :
    skipBlanks verbose (unescape [d] source) = unescape [d] (skipBlanks verbose source) := by
  have hnone : '\\' ∉ (spanApart (fun _ => false) verbose false source).1 := fun hmem =>
    absurd (forall_of_spanApart rfl _ hmem) Bool.false_ne_true
  rw [← settled_skipBlanks, skipBlanks_eq] at h
  rw [skipBlanks_eq, spanApart_unescape hd id hnone rfl h, skipBlanks_eq]

theorem skipBlanks_unescape_cons {c : Char} {rest : List Char} (hc : c ≠ '\\')
    (h : skipBlanks verbose source = c :: rest) :
    skipBlanks verbose (unescape [d] source) = c :: unescape [d] rest := by
  rw [skipBlanks_unescape hd (settled_of_cons hc h), h, unescape_cons hc]

theorem dropWhile_isSpace_unescape (source : List Char) :
    (unescape [d] source).dropWhile Unicode.isSpace =
      unescape [d] (source.dropWhile Unicode.isSpace) := by
  induction source using units_induction with
  | nil => rfl
  | single c rest alone ih =>
      rw [unescape_cons alone, List.dropWhile_cons, List.dropWhile_cons, ih, ← unescape_cons alone]
      split <;> rfl
  | pair c rest ih =>
      have hstop : ∀ rest, ('\\' :: rest).dropWhile Unicode.isSpace = '\\' :: rest := fun rest =>
        List.dropWhile_cons_of_neg (by simp [isSpace_backslash])
      rw [hstop, unescape_pair]
      split
      · rename_i hc
        rw [List.mem_singleton] at hc
        subst hc
        exact List.dropWhile_cons_of_neg (by simp [isSpace_delimiter hd])
      · exact hstop _
  | last => rfl

end Readers

end Stepwise.Regex
