import Stepwise.Proofs.Turnip.Generation

/-!
# Optional words between spaces

An optional part takes the white space on either side of it into parts that may be missing on
their own. Main statement: a pattern of two words with an optional word in single spaces between
them matches the texts with any of the two spaces and the optional word left out, so that both
spaces may stand where the word is missing.
-/

namespace Stepwise.Turnip

open Regex

/-- Whether some characters are a word of letters. -/
def IsLetters (word : List Char) : Prop :=
  word ≠ [] ∧ ∀ c ∈ word, c.isAlpha = true

/-- The pattern of two words with an optional word between them. -/
def optionalBetween (first word last : String) : String :=
  first ++ " (" ++ word ++ ") " ++ last

/-- The texts that an optional word with a space on either side stands for. -/
def fillings (word : List Char) : List (List Char) :=
  [[], [' ']].flatMap fun lead =>
    [[], word].flatMap fun part => [[], [' ']].map fun trail => lead ++ (part ++ trail)

variable {first word last : List Char}

/-! The items of the pattern. -/

theorem IsLetters.not_mem (h : IsLetters word) {c : Char} (hc : c.isAlpha = false) : c ∉ word := by
  intro hmem
  rw [h.2 c hmem] at hc
  exact Bool.noConfusion hc

theorem IsLetters.isNameCharacter (h : IsLetters word) :
    ∀ c ∈ word, isNameCharacter c = true := by
  intro c hc
  rw [Turnip.isNameCharacter, Char.isAlphanum, h.2 c hc, Bool.true_or, Bool.true_or]

theorem optionalItem_char {c : Char} (hspace : Unicode.isSpace c = false) (hopen : c ≠ '(')
    (row : List Item) : optionalItem (.char c :: row) = none := by
  have hnone : parenthesized? (.char c :: row) = none := by
    unfold parenthesized?
    split
    · rename_i inner heq
      exact absurd (Item.char.inj (List.cons.inj heq).1) hopen
    · rfl
  rw [optionalItem, hspace, hnone]
  rfl

/-- No optional part begins in a word. -/
theorem takeAll_optional_map_char (hspace : ∀ c ∈ first, Unicode.isSpace c = false)
    (hopen : '(' ∉ first) (row : List Item) :
    optionalItem.takeAll (first.map .char ++ row) =
      first.map .char ++ optionalItem.takeAll row := by
  induction first with
  | nil => rfl
  | cons c first ih =>
      rw [List.forall_mem_cons] at hspace
      rw [List.mem_cons, not_or] at hopen
      rw [List.map_cons, List.cons_append, ItemRule.takeAll,
        optionalItem_char hspace.1 (Ne.symm hopen.1)]
      simp only [ih hspace.2 hopen.2, List.cons_append]

/-- A word in parentheses is an optional part with the space on either side. -/
theorem optionalItem_word (h : IsLetters word) (back : List Char) :
    optionalItem ((" (".toList ++ (word ++ (") ".toList ++ back))).map .char) =
      some (.optional (some ' ') word (some ' '), back.map .char) := by
  have hplain : ∀ c ∈ word, isPlain c = true := fun c hc =>
    isPlain_of_isNameCharacter (h.isNameCharacter c hc)
  obtain ⟨htake, hdrop⟩ := span_append ')' (' ' :: back) hplain (by decide)
  have hspan : spanChars isPlain ((word ++ ')' :: ' ' :: back).map .char) =
      (word, .char ')' :: .char ' ' :: back.map .char) := by
    rw [spanChars_map_char, htake, hdrop]
    rfl
  have hpar : parenthesized? (.char '(' :: (word ++ ')' :: ' ' :: back).map .char) =
      some (word, .char ' ' :: back.map .char) := by
    obtain ⟨c, others, rfl⟩ := List.exists_cons_of_ne_nil h.1
    rw [parenthesized?, hspan]
    rfl
  have hrow : (" (".toList ++ (word ++ (") ".toList ++ back))).map Item.char =
      .char ' ' :: .char '(' :: (word ++ ')' :: ' ' :: back).map .char :=
    rfl
  rw [hrow, optionalItem, hpar]
  rfl

theorem takeAll_optional_word (hword : IsLetters word) (hlast : IsLetters last) :
    optionalItem.takeAll ((" (".toList ++ (word ++ (") ".toList ++ last))).map .char) =
      .optional (some ' ') word (some ' ') :: last.map .char := by
  have hbehind : optionalItem.takeAll (last.map .char) = last.map .char :=
    ItemRule.takeAll_eq_self fun suffix hsuffix => optionalItem_eq_none fun hmem =>
      hlast.not_mem (c := '(') (by decide) (by simpa using hsuffix.subset hmem)
  have hlength : (last.map Item.char).length ≤
      (('(' :: (word ++ (") ".toList ++ last))).map Item.char).length := by
    simp
    omega
  have htaken := optionalItem_word hword last
  have hopen : " (".toList = [' ', '('] := rfl
  rw [hopen, List.cons_append, List.map_cons] at htaken ⊢
  rw [ItemRule.takeAll, htaken]
  simp only [List.cons_append, List.nil_append, hlength, ↓reduceIte, hbehind]

theorem items_optionalBetween (hfirst : IsLetters first) (hword : IsLetters word)
    (hlast : IsLetters last) :
    items (first ++ (" (".toList ++ (word ++ (") ".toList ++ last)))) =
      first.map .char ++ .optional (some ' ') word (some ' ') :: last.map .char := by
  have hnone {letters : List Char} (h : IsLetters letters) : ':' ∉ letters := h.not_mem (by decide)
  have hcolon : ':' ∉ first ++ (" (".toList ++ (word ++ (") ".toList ++ last))) := by
    simp [hnone hfirst, hnone hword, hnone hlast]
  have hspace : ∀ c ∈ first, Unicode.isSpace c = false := fun c hc =>
    isSpace_of_isNameCharacter (hfirst.isNameCharacter c hc)
  have hplaceholder := takeAll_text hcolon []
  rw [List.append_nil, List.map_nil, ItemRule.takeAll, List.append_nil] at hplaceholder
  rw [items, hplaceholder, List.map_append, takeAll_optional_map_char hspace (hfirst.not_mem rfl),
    takeAll_optional_word hword hlast]
  refine ItemRule.takeAll_eq_self fun suffix hsuffix => choiceItem_eq_none fun hmem => ?_
  have hslash : '/' ∈ first ∨ '/' ∈ last := by
    simpa using hsuffix.subset hmem
  rcases hslash with hslash | hslash
  · exact hfirst.not_mem rfl hslash
  · exact hlast.not_mem rfl hslash

/-! How texts are read as these items. -/

theorem reads_map_char_append {row : List Item} {before text : List Char} :
    Reads (first.map .char ++ row) before text ↔
      ∃ after, text = first ++ after ∧ Reads row (before ++ first) after := by
  induction first generalizing before text with
  | nil => simp
  | cons c first ih =>
      rw [List.map_cons, List.cons_append, Reads]
      constructor
      · rintro ⟨piece, after, rfl, rfl, hrest⟩
        obtain ⟨behind, rfl, hbehind⟩ := ih.mp hrest
        rw [List.append_assoc] at hbehind
        exact ⟨behind, rfl, hbehind⟩
      · rintro ⟨after, rfl, hrest⟩
        refine ⟨[c], first ++ after, rfl, rfl, ih.mpr ⟨after, rfl, ?_⟩⟩
        rwa [List.append_assoc]

theorem reads_map_char {before text : List Char} :
    Reads (first.map .char) before text ↔ text = first := by
  have hrow : Reads (first.map .char ++ []) before text ↔
      ∃ after, text = first ++ after ∧ Reads [] (before ++ first) after :=
    reads_map_char_append
  rw [List.append_nil] at hrow
  rw [hrow]
  constructor
  · rintro ⟨after, rfl, rfl⟩
    exact List.append_nil first
  · rintro rfl
    exact ⟨[], (List.append_nil text).symm, rfl⟩

theorem mem_fillings_iff {between : List Char} :
    between ∈ fillings word ↔
      ∃ lead part trail, between = lead ++ (part ++ trail) ∧ (lead = [] ∨ lead = [' ']) ∧
        (part = [] ∨ part = word) ∧ (trail = [] ∨ trail = [' ']) := by
  simp only [fillings, List.mem_flatMap, List.mem_map, List.mem_cons, List.not_mem_nil, or_false]
  constructor
  · rintro ⟨lead, hlead, part, hpart, trail, htrail, rfl⟩
    exact ⟨lead, part, trail, rfl, hlead, hpart, htrail⟩
  · rintro ⟨lead, part, trail, rfl, hlead, hpart, htrail⟩
    exact ⟨lead, hlead, part, hpart, trail, htrail, rfl⟩

theorem reads_optionalBetween {text : List Char} :
    Reads (first.map .char ++ .optional (some ' ') word (some ' ') :: last.map .char) [] text ↔
      ∃ between ∈ fillings word, text = first ++ (between ++ last) := by
  rw [reads_map_char_append]
  constructor
  · rintro ⟨after, rfl, piece, back, rfl, hpiece, hback⟩
    obtain rfl := reads_map_char.mp hback
    exact ⟨piece, mem_fillings_iff.mpr hpiece, rfl⟩
  · rintro ⟨between, hbetween, rfl⟩
    exact ⟨_, rfl, between, last, rfl, mem_fillings_iff.mp hbetween, reads_map_char.mpr rfl⟩

/-! The matcher. -/

theorem toList_optionalBetween (first word last : String) :
    (optionalBetween first word last).toList =
      first.toList ++ (" (".toList ++ (word.toList ++ (") ".toList ++ last.toList))) := by
  simp only [optionalBetween, String.toList_append, List.append_assoc]

section Between

variable {first word last : String} (hfirst : IsLetters first.toList)
  (hword : IsLetters word.toList) (hlast : IsLetters last.toList)

include hfirst hword hlast

theorem items_toList_optionalBetween :
    items (optionalBetween first word last).toList =
      first.toList.map .char ++
        .optional (some ' ') word.toList (some ' ') :: last.toList.map .char := by
  rw [toList_optionalBetween]
  exact items_optionalBetween hfirst hword hlast

theorem placeholderNames_optionalBetween :
    placeholderNames (optionalBetween first word last).toList = [] := by
  rw [← filterMap_name?_items, items_toList_optionalBetween hfirst hword hlast,
    List.filterMap_append, filterMap_name?_map_char, List.filterMap_cons_none rfl,
    filterMap_name?_map_char]
  rfl

end Between

/-- A pattern of two words with an optional word in single spaces between them has a matcher.
Unless the matcher is degraded because of its size, it matches exactly the texts of the two words
with the optional word and each of the spaces between them, or without. So it matches the text
with the optional word and the one with a single space instead, but also the one with both
spaces. -/
theorem isMatch_optionalBetween (first word last : String) (hfirst : IsLetters first.toList)
    (hword : IsLetters word.toList) (hlast : IsLetters last.toList) :
    (Matcher.ofSourceWithin none
        (turnipNotation.toRegex (optionalBetween first word last))).isDegraded = false ∧
      ∀ limit : Option Nat,
        let m := Matcher.ofSourceWithin limit
          (turnipNotation.toRegex (optionalBetween first word last))
        (∀ text, m.isMatch text = true ↔ m.isDegraded = false ∧
          ∃ between ∈ fillings word.toList,
            text.toList = first.toList ++ (between ++ last.toList)) ∧
        (m.isDegraded = false →
          m.isMatch (first ++ " " ++ word ++ " " ++ last) = true ∧
            m.isMatch (first ++ " " ++ last) = true ∧
            m.isMatch (first ++ "  " ++ last) = true) := by
  have hnames := placeholderNames_optionalBetween hfirst hword hlast
  have hnodup : (placeholderNames (optionalBetween first word last).toList).Nodup := by
    rw [hnames]
    exact List.nodup_nil
  have hdigit : ∀ name ∈ placeholderNames (optionalBetween first word last).toList,
      ∀ c ∈ name.head?, c.isDigit = false := by
    rw [hnames]
    exact nofun
  refine ⟨isDegraded_toRegex hnodup hdigit, ?_⟩
  intro limit m
  have hmatch (text : String) : m.isMatch text = true ↔ m.isDegraded = false ∧
      ∃ between ∈ fillings word.toList,
        text.toList = first.toList ++ (between ++ last.toList) := by
    rw [← reads_optionalBetween, ← items_toList_optionalBetween hfirst hword hlast,
      ← accepts_rowPassage (n := 0)]
    simp only [m, ofSourceWithin_toRegex]
    exact (denotes_items hdigit).isMatch_wholeMatcher (distinct_groupNames_items hnodup)
      (by decide) limit text
  refine ⟨hmatch, fun hsound => ?_⟩
  have hfilled {part trail : List Char} (hpart : part = [] ∨ part = word.toList)
      (htrail : trail = [] ∨ trail = [' ']) {text : String}
      (htext : text.toList = first.toList ++ ([' '] ++ (part ++ trail) ++ last.toList)) :
      m.isMatch text = true :=
    (hmatch text).mpr ⟨hsound, [' '] ++ (part ++ trail),
      mem_fillings_iff.mpr ⟨[' '], part, trail, rfl, Or.inr rfl, hpart, htrail⟩, htext⟩
  refine ⟨?_, ?_, ?_⟩
  · exact hfilled (Or.inr rfl) (Or.inr rfl) (by simp)
  · exact hfilled (Or.inl rfl) (Or.inl rfl) (by simp)
  · exact hfilled (Or.inl rfl) (Or.inr rfl) (by simp)

theorem isMatch_optionalBetween_really :
    let m := Matcher.ofSource (turnipNotation.toRegex "I (really) like")
    (IsLetters "I".toList ∧ IsLetters "really".toList ∧ IsLetters "like".toList) ∧
      m.isDegraded = false ∧ m.isMatch "I really like" = true ∧ m.isMatch "I like" = true ∧
      m.isMatch "I  like" = true ∧ m.isMatch "I rather like" = false := by
  have hfirst : IsLetters "I".toList := ⟨by decide, List.all_iff_forall_prop.mp (by decide)⟩
  have hword : IsLetters "really".toList := ⟨by decide, List.all_iff_forall_prop.mp (by decide)⟩
  have hlast : IsLetters "like".toList := ⟨by decide, List.all_iff_forall_prop.mp (by decide)⟩
  have hnames : placeholderNames "I (really) like".toList = [] := by decide
  have hdegraded : (Matcher.ofSource (turnipNotation.toRegex "I (really) like")).isDegraded =
      false :=
    (isDegraded_within (by rw [hnames]; exact List.nodup_nil) (by rw [hnames]; exact nofun)
      Regex.sizeLimit).1 (by decide)
  obtain ⟨-, hall⟩ := isMatch_optionalBetween "I" "really" "like" hfirst hword hlast
  obtain ⟨hmatch, haccepted⟩ := hall (some Regex.sizeLimit)
  obtain ⟨hfull, hsingle, hdouble⟩ := haccepted hdegraded
  refine ⟨⟨hfirst, hword, hlast⟩, hdegraded, hfull, hsingle, hdouble, ?_⟩
  have hnone : ∀ between ∈ fillings "really".toList,
      "I rather like".toList ≠ "I".toList ++ (between ++ "like".toList) := by
    decide
  rw [← Bool.not_eq_true]
  intro hrather
  obtain ⟨-, between, hbetween, htext⟩ := (hmatch "I rather like").mp hrather
  exact hnone between hbetween htext

end Stepwise.Turnip
