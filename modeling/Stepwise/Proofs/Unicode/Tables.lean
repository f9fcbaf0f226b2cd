import Stepwise.Proofs.Unicode.Covering
import Stepwise.Unicode.Category
import Stepwise.Unicode.Later
import Stepwise.Unicode.Space
import Stepwise.Unicode.Word

/-!
# Tables of characters

The tables that classes are taken from are tidy, so looking a character up in them stops
in time.
-/

namespace Stepwise.Unicode

/-- The tables that letters are put together from. -/
def letterTables : List Ranges :=
  [Category.uppercaseLetter, Category.lowercaseLetter, Category.titlecaseLetter,
    Category.modifierLetter, Category.otherLetter]

/-- The tables that other classes are put together from, or that are looked up themselves. -/
def classTables : List Ranges :=
  [wordCharacters, Category.decimalNumber, Category.letterNumber, Category.otherNumber,
    otherAlphabetic]

theorem tidy_of_mem_tables : ∀ t ∈ classTables ++ letterTables, t.Tidy := by
  have hchain : ∀ t ∈ classTables ++ letterTables, t.IsChain fun p q => p.1 ≤ q.1 := by
    decide +kernel
  have hvalid : ∀ t ∈ classTables ++ letterTables, ∀ p ∈ t, p.1.isValidChar := by decide +kernel
  exact fun t ht => Ranges.tidy_of_isChain (hchain t ht) (hvalid t ht)

theorem tidy_letterTables : ∀ t ∈ letterTables, t.Tidy :=
  fun t ht => tidy_of_mem_tables t (List.mem_append_right classTables ht)

theorem tidy_wordCharacters : Ranges.Tidy wordCharacters :=
  tidy_of_mem_tables _ (List.mem_append_left letterTables (by simp [classTables]))

theorem tidy_decimalNumber : Ranges.Tidy Category.decimalNumber :=
  tidy_of_mem_tables _ (List.mem_append_left letterTables (by simp [classTables]))

theorem tidy_letterNumber : Ranges.Tidy Category.letterNumber :=
  tidy_of_mem_tables _ (List.mem_append_left letterTables (by simp [classTables]))

theorem tidy_otherNumber : Ranges.Tidy Category.otherNumber :=
  tidy_of_mem_tables _ (List.mem_append_left letterTables (by simp [classTables]))

theorem tidy_otherAlphabetic : Ranges.Tidy otherAlphabetic :=
  tidy_of_mem_tables _ (List.mem_append_left letterTables (by simp [classTables]))

theorem toNat_of_isAlpha {c : Char} (h : c.isAlpha = true) :
    (0x41 ≤ c.toNat ∧ c.toNat ≤ 0x5a) ∨ 0x61 ≤ c.toNat ∧ c.toNat ≤ 0x7a := by
  delta Char.isAlpha Char.isUpper Char.isLower at h
  simpa [UInt32.le_iff_toNat_le] using h

theorem toNat_of_isDigit {c : Char} (h : c.isDigit = true) : 0x30 ≤ c.toNat ∧ c.toNat ≤ 0x39 := by
  simpa [Char.isDigit, UInt32.le_iff_toNat_le] using h

/-- ASCII digits are decimal digits. -/
theorem has_decimalNumber_of_isDigit {c : Char} (h : c.isDigit = true) :
    Category.decimalNumber.has c = true :=
  (tidy_decimalNumber.has_iff c).mpr ⟨_, List.mem_cons_self, toNat_of_isDigit h⟩

/-- White space is no part of a word. -/
theorem isWord_of_isSpace {c : Char} (h : isSpace c = true) : isWord c = false := by
  have hapart : whiteSpace.all (fun p => wordCharacters.all fun q =>
      Nat.blt p.2 q.1 || Nat.blt q.2 p.1) = true := by
    decide +kernel
  apply Bool.eq_false_iff.mpr
  intro hword
  obtain ⟨p, hp, hfrom, hto⟩ := Ranges.exists_of_contains h
  obtain ⟨q, hq, hfrom', hto'⟩ := Ranges.exists_of_contains hword
  have hpq := List.all_eq_true.mp (List.all_eq_true.mp hapart p hp) q hq
  rw [Bool.or_eq_true, Nat.blt_eq, Nat.blt_eq] at hpq
  omega

/-- Decimal digits are parts of words. -/
theorem isWord_of_has_decimalNumber {c : Char} (h : Category.decimalNumber.has c = true) :
    isWord c = true := by
  have hwithin : Ranges.isWithin Category.decimalNumber wordCharacters = true := by decide +kernel
  have hcovers := (tidy_decimalNumber.has_iff c).mp h
  exact (tidy_wordCharacters.has_iff c).mpr (Ranges.covers_of_isWithin hwithin hcovers)

/-- A decimal digit is no white space. -/
theorem isSpace_of_has_decimalNumber {c : Char} (h : Category.decimalNumber.has c = true) :
    isSpace c = false := by
  apply Bool.eq_false_iff.mpr
  intro hspace
  exact absurd (isWord_of_has_decimalNumber h) (by simp [isWord_of_isSpace hspace])

theorem covers_letter_of_isAlpha {c : Char} (h : c.isAlpha = true) :
    Category.letter.Covers c.toNat := by
  change (Ranges.unionAll letterTables).Covers c.toNat
  rw [Ranges.covers_unionAll tidy_letterTables]
  rcases toNat_of_isAlpha h with hupper | hlower
  · exact ⟨Category.uppercaseLetter, by simp [letterTables], _, List.mem_cons_self, hupper⟩
  · exact ⟨Category.lowercaseLetter, by simp [letterTables], _, List.mem_cons_self, hlower⟩

theorem tidy_alphabeticTables :
    ∀ t ∈ [Category.letter, Category.letterNumber, otherAlphabetic], t.Tidy := by
  intro t ht
  simp only [List.mem_cons, List.not_mem_nil, or_false] at ht
  rcases ht with rfl | rfl | rfl
  · exact Ranges.tidy_unionAll tidy_letterTables
  · exact tidy_letterNumber
  · exact tidy_otherAlphabetic

/-- ASCII letters are alphabetic. -/
theorem isAlphabetic_of_isAlpha {c : Char} (h : c.isAlpha = true) : isAlphabetic c = true := by
  have hcovers := (Ranges.covers_unionAll tidy_alphabeticTables).mpr
    ⟨_, List.mem_cons_self, covers_letter_of_isAlpha h⟩
  rw [isAlphabetic, alphabetic,
    ((Ranges.tidy_unionAll tidy_alphabeticTables).has_iff c).mpr hcovers, Bool.true_or]

theorem tidy_numberTables :
    ∀ t ∈ [Category.decimalNumber, Category.letterNumber, Category.otherNumber], t.Tidy := by
  intro t ht
  simp only [List.mem_cons, List.not_mem_nil, or_false] at ht
  rcases ht with rfl | rfl | rfl
  · exact tidy_decimalNumber
  · exact tidy_letterNumber
  · exact tidy_otherNumber

/-- ASCII letters and digits are alphanumeric. -/
theorem isAlphanumeric_of_isAlphanum {c : Char} (h : c.isAlphanum = true) :
    isAlphanumeric c = true := by
  rw [isAlphanumeric]
  rcases Bool.or_eq_true_iff.mp h with halpha | hdigit
  · rw [isAlphabetic_of_isAlpha halpha, Bool.true_or, Bool.true_or]
  · have hcovers := (Ranges.covers_unionAll tidy_numberTables).mpr
      ⟨_, List.mem_cons_self, _, List.mem_cons_self, toNat_of_isDigit hdigit⟩
    rw [Category.number, ((Ranges.tidy_unionAll tidy_numberTables).has_iff c).mpr hcovers,
      Bool.or_true, Bool.true_or]

/-- The tables that alphabetic characters are looked up in. -/
def alphabeticTables : List Ranges :=
  letterTables ++ [Category.letterNumber, otherAlphabetic, laterAlphabetic]

theorem isAlphabetic_eq_false {c : Char} (h : ∀ t ∈ alphabeticTables, t.has c = false) :
    isAlphabetic c = false := by
  rw [isAlphabetic, Bool.or_eq_false_iff]
  refine ⟨Bool.eq_false_iff.mpr fun halphabetic => ?_,
    h laterAlphabetic (by simp [alphabeticTables])⟩
  have hcovers : Ranges.Covers alphabetic c.toNat := Ranges.exists_of_contains halphabetic
  rw [alphabetic, Ranges.covers_unionAll tidy_alphabeticTables] at hcovers
  obtain ⟨t, ht, hcovers⟩ := hcovers
  rcases List.mem_cons.mp ht with rfl | hmem
  · change (Ranges.unionAll letterTables).Covers c.toNat at hcovers
    rw [Ranges.covers_unionAll tidy_letterTables] at hcovers
    obtain ⟨u, hu, hcovers⟩ := hcovers
    have hhas := ((tidy_letterTables u hu).has_iff c).mpr hcovers
    exact absurd hhas (by simp [h u (List.mem_append_left _ hu)])
  · have hhas := ((tidy_alphabeticTables t ht).has_iff c).mpr hcovers
    have htable : t ∈ alphabeticTables :=
      List.mem_append_right letterTables (List.mem_append_left [laterAlphabetic] hmem)
    exact absurd hhas (by simp [h t htable])

/-- ASCII digits are not alphabetic. -/
theorem isAlphabetic_of_isDigit {c : Char} (h : c.isDigit = true) : isAlphabetic c = false := by
  have hbehind : ∀ t ∈ alphabeticTables, ∀ p ∈ t, 0x3a ≤ p.1 := by decide +kernel
  have hdigit := toNat_of_isDigit h
  refine isAlphabetic_eq_false fun t ht => Bool.eq_false_iff.mpr fun hhas => ?_
  obtain ⟨p, hp, hfrom, -⟩ := Ranges.exists_of_contains hhas
  have hlow := hbehind t ht p hp
  omega

theorem isAlphabetic_backslash : isAlphabetic '\\' = false :=
  isAlphabetic_eq_false (by decide)

theorem isAlphanumeric_backslash : isAlphanumeric '\\' = false := by
  have hnone : ∀ t ∈ [Category.decimalNumber, Category.letterNumber, Category.otherNumber],
      t.has '\\' = false := by
    decide
  have hlater : laterNumber.has '\\' = false := by decide
  rw [isAlphanumeric, isAlphabetic_backslash, Bool.false_or, hlater, Bool.or_false]
  apply Bool.eq_false_iff.mpr
  intro hnumber
  have hcovers : Ranges.Covers Category.number '\\'.toNat := Ranges.exists_of_contains hnumber
  rw [Category.number, Ranges.covers_unionAll tidy_numberTables] at hcovers
  obtain ⟨t, ht, hcovers⟩ := hcovers
  have hhas := ((tidy_numberTables t ht).has_iff _).mpr hcovers
  exact absurd hhas (by simp [hnone t ht])

end Stepwise.Unicode
