import Mathlib.Data.Bool.AllAny
import Mathlib.Data.List.TakeWhile
import Mathlib.Tactic.ByContra
import Stepwise.Proofs.Turnip.Items

/-!
# The passes over a pattern

The passes look for quoted characters, so they find the items of the pattern and nothing in
what earlier passes put in. Main statement: the regular expression of a pattern is that of
its items, one behind the other.
-/

namespace Stepwise

/-- A rule that applies nowhere in the front part of a text leaves it as it is. -/
theorem ReplacementRule.replaceAll_append (rule : ReplacementRule) {front back : List Char}
    (h : ∀ s, s <:+ front → s ≠ [] → rule (s ++ back) = none) :
    rule.replaceAll (front ++ back) = front ++ rule.replaceAll back := by
  induction front with
  | nil => rfl
  | cons c front ih =>
      have hnone := h (c :: front) (List.suffix_refl _) (List.cons_ne_nil _ _)
      rw [List.cons_append] at hnone ⊢
      rw [replaceAll, hnone]
      simp only
      rw [ih fun s hs => h s (hs.trans (List.suffix_cons c front)), List.cons_append]

namespace Turnip

theorem placeholderGroups_eq (name : List Char) :
    placeholderGroups name =
      ['(', '?', ':', '"', '(', '?', 'P', '<'] ++ name ++
        ['>', '[', '^', '"', ']', '+', ')', '"', '|', '\'', '(', '?', 'P', '<'] ++ name ++
        ['.', 's', 'i', 'n', 'g', 'l', 'e', '>', '[', '^', '\'', ']', '+', ')', '\'', '|',
          '\\', 'b', '(', '?', 'P', '<'] ++ name ++
        ['.', 'b', 'a', 'r', 'e', '>', '\\', 'w', '+', ')', '\\', 'b', ')'] :=
  rfl

/-- A character of white space that may be missing. -/
def maybeSpace : Option Char → List Char
  | none => []
  | some c => maybe [c]

/-- An item as the passes write it, with special characters quoted. -/
def Item.quoted : Item → List Char
  | .char c => if c ∈ quotedCharacters then ['\\', c] else [c]
  | .placeholder name => placeholderGroups name
  | .optional lead text trail => maybeSpace lead ++ maybe text ++ maybeSpace trail
  | .choice left right => "(?:".toList ++ left ++ '|' :: right ++ [')']

def quotedAll (items : List Item) : List Char :=
  items.flatMap Item.quoted

theorem quotedAll_cons (item : Item) (rest : List Item) :
    quotedAll (item :: rest) = item.quoted ++ quotedAll rest :=
  List.flatMap_cons

theorem quote_eq_quotedAll (pattern : List Char) :
    quote pattern = quotedAll (pattern.map .char) := by
  rw [quote, quotedAll, List.flatMap_map]
  rfl

theorem quoted_ne_nil (item : Item) : item.quoted ≠ [] := by
  cases item with
  | char c =>
      rw [Item.quoted]
      split <;> simp
  | placeholder name =>
      rw [Item.quoted, placeholderGroups_eq]
      simp
  | optional lead text trail => simp [Item.quoted, maybe]
  | choice left right => simp [Item.quoted]

/-- A rule does to the text of items of some kind what another rule does to the items. -/
structure Simulates (rule : ReplacementRule) (itemRule : ItemRule) (P : Item → Prop) : Prop where
  atItem : ∀ item rest, (∀ i ∈ item :: rest, P i) →
    rule (item.quoted ++ quotedAll rest) =
      (itemRule (item :: rest)).map fun (made, after) => (made.quoted, quotedAll after)
  inside : ∀ item rest s, (∀ i ∈ item :: rest, P i) → s <:+ item.quoted → s ≠ [] →
    s ≠ item.quoted → rule (s ++ quotedAll rest) = none

/-- A pass over the text of items is a pass over the items. -/
theorem Simulates.replaceAll {rule : ReplacementRule} {itemRule : ItemRule} {P Q : Item → Prop}
    (h : Simulates rule itemRule P) (hmakes : itemRule.Makes Q) {items : List Item}
    (hitems : ∀ i ∈ items, P i) :
    rule.replaceAll (quotedAll items) = quotedAll (itemRule.takeAll items) := by
  fun_induction ItemRule.takeAll itemRule items with
  | case1 => rw [quotedAll, List.flatMap_nil, ReplacementRule.replaceAll]
  | case2 item rest hnone ih =>
      have hrest : ∀ i ∈ rest, P i := fun i hi => hitems i (List.mem_cons_of_mem item hi)
      rw [quotedAll_cons, quotedAll_cons, ← ih hrest]
      apply ReplacementRule.replaceAll_append
      intro s hs hne
      by_cases heq : s = item.quoted
      · rw [heq, h.atItem item rest hitems, hnone]
        rfl
      · exact h.inside item rest s hitems hs hne heq
  | case3 item rest made after hsome hle ih =>
      have hsuffix := (hmakes hsome).2
      have hafter : ∀ i ∈ after, P i :=
        fun i hi => hitems i (List.mem_cons_of_mem item (hsuffix.subset hi))
      have hfirst := h.atItem item rest hitems
      rw [hsome] at hfirst
      rw [quotedAll_cons, quotedAll_cons, ← ih hafter]
      obtain ⟨c, cs, hquoted⟩ := List.exists_cons_of_ne_nil (quoted_ne_nil item)
      have hlength : (quotedAll after).length ≤ (cs ++ quotedAll rest).length := by
        obtain ⟨front, rfl⟩ := hsuffix
        rw [quotedAll, quotedAll, List.flatMap_append, List.length_append, List.length_append]
        omega
      rw [hquoted, List.cons_append] at hfirst ⊢
      rw [ReplacementRule.replaceAll, hfirst]
      simp only [Option.map_some, hlength, ↓reduceIte]
  | case4 item rest made after hsome hlt ih =>
      exact absurd (hmakes hsome).2.length_le hlt

/-! What stands in the text of items. -/

theorem isSpace_of_mem_quotedCharacters :
    ∀ c ∈ quotedCharacters, Unicode.isSpace c = false :=
  List.all_iff_forall_prop.mp (by decide)

theorem isWord_of_mem_quotedCharacters :
    ∀ c ∈ quotedCharacters, Unicode.isWord c = false :=
  List.all_iff_forall_prop.mp (by decide)

theorem isNameCharacter_of_mem_quotedCharacters :
    ∀ c ∈ quotedCharacters, isNameCharacter c = false :=
  List.all_iff_forall_prop.mp (by decide)

theorem isPlain_eq_false {c : Char} : isPlain c = false ↔ c ∈ quotedCharacters := by
  rw [isPlain, decide_eq_false_iff_not, Decidable.not_not]

theorem quoted_of_isPlain {c : Char} (h : isPlain c = true) : (Item.char c).quoted = [c] := by
  rw [Item.quoted, if_neg (of_decide_eq_true h)]

theorem quoted_of_not_isPlain {c : Char} (h : isPlain c = false) :
    (Item.char c).quoted = ['\\', c] := by
  rw [Item.quoted, if_pos (isPlain_eq_false.mp h)]

theorem isPlain_of_isWord {c : Char} (h : Unicode.isWord c = true) : isPlain c = true := by
  by_contra hc
  rw [Bool.not_eq_true, isPlain_eq_false] at hc
  rw [isWord_of_mem_quotedCharacters c hc] at h
  exact Bool.noConfusion h

theorem isPlain_of_isSpace {c : Char} (h : Unicode.isSpace c = true) : isPlain c = true := by
  by_contra hc
  rw [Bool.not_eq_true, isPlain_eq_false] at hc
  rw [isSpace_of_mem_quotedCharacters c hc] at h
  exact Bool.noConfusion h

theorem isPlain_of_isNameCharacter {c : Char} (h : isNameCharacter c = true) :
    isPlain c = true := by
  by_contra hc
  rw [Bool.not_eq_true, isPlain_eq_false] at hc
  rw [isNameCharacter_of_mem_quotedCharacters c hc] at h
  exact Bool.noConfusion h

/-- A row of items begins with a backslash, with the parenthesis of something that was put
in, or with a character that is not quoted. -/
theorem quoted_cases (item : Item) :
    (∃ c, item = .char c ∧ isPlain c = true ∧ item.quoted = [c]) ∨
      (∃ c, item = .char c ∧ isPlain c = false ∧ item.quoted = ['\\', c]) ∨
      ((∀ c, item ≠ .char c) ∧ ∃ s, item.quoted = '(' :: '?' :: s) := by
  cases item with
  | char c =>
      cases hc : isPlain c with
      | true => exact Or.inl ⟨c, rfl, hc, quoted_of_isPlain hc⟩
      | false => exact Or.inr (Or.inl ⟨c, rfl, hc, quoted_of_not_isPlain hc⟩)
  | placeholder name =>
      refine Or.inr (Or.inr ⟨by simp, ?_⟩)
      rw [Item.quoted, placeholderGroups_eq]
      exact ⟨_, rfl⟩
  | optional lead text trail =>
      refine Or.inr (Or.inr ⟨by simp, ?_⟩)
      cases lead with
      | none => exact ⟨_, rfl⟩
      | some c => exact ⟨_, rfl⟩
  | choice left right =>
      refine Or.inr (Or.inr ⟨by simp, ?_⟩)
      exact ⟨_, rfl⟩

/-- Characters that are not quoted are found in the text of items as in the items. -/
theorem takeWhile_quotedAll {p : Char → Bool} (hplain : ∀ c, p c = true → isPlain c = true)
    (items : List Item) :
    (quotedAll items).takeWhile p = (spanChars p items).1 ∧
      (quotedAll items).dropWhile p = quotedAll (spanChars p items).2 := by
  have hstop : ∀ c, isPlain c = false → p c = false := by
    intro c hc
    by_contra hp
    rw [hplain c (by simpa using hp)] at hc
    exact Bool.noConfusion hc
  have hbackslash : p '\\' = false := hstop _ (by decide)
  have hparenthesis : p '(' = false := hstop _ (by decide)
  induction items with
  | nil => exact ⟨rfl, rfl⟩
  | cons item rest ih =>
      rw [quotedAll_cons]
      rcases quoted_cases item with ⟨c, rfl, hc, hquoted⟩ | ⟨c, rfl, hc, hquoted⟩ | ⟨hne, s, hquoted⟩
      · rw [hquoted, List.singleton_append, List.takeWhile_cons, List.dropWhile_cons, spanChars]
        by_cases hp : p c = true
        · simp only [hp, ↓reduceIte, ih.1, ih.2, and_self]
        · simp only [hp, ↓reduceIte, Bool.false_eq_true, true_and]
          rw [quotedAll_cons, hquoted, List.singleton_append]
      · rw [spanChars, if_neg (by simp [hstop c hc]), quotedAll_cons, hquoted]
        simp [hbackslash]
      · have hspan : spanChars p (item :: rest) = ([], item :: rest) := by
          unfold spanChars
          split
          · rename_i heq
            exact absurd (List.cons.inj heq).1 (hne _)
          · rfl
        rw [hspan, quotedAll_cons, hquoted]
        simp [hparenthesis]

/-- A quoted character stands in the text of items where it stands in the items. -/
theorem eq_of_quotedAll_eq {items : List Item} {c : Char} {s : List Char}
    (h : quotedAll items = '\\' :: c :: s) :
    ∃ rest, items = .char c :: rest ∧ s = quotedAll rest := by
  cases items with
  | nil => exact absurd h (by simp [quotedAll])
  | cons item rest =>
      rw [quotedAll_cons] at h
      rcases quoted_cases item with ⟨d, rfl, hd, hquoted⟩ | ⟨d, rfl, hd, hquoted⟩ | ⟨hne, s', hquoted⟩
      · rw [hquoted, List.singleton_append] at h
        rw [(List.cons.inj h).1] at hd
        exact absurd hd (by decide)
      · rw [hquoted] at h
        simp only [List.cons_append, List.nil_append, List.cons.injEq, true_and] at h
        exact ⟨rest, by rw [h.1], h.2.symm⟩
      · rw [hquoted] at h
        exact absurd (List.cons.inj h).1 (by decide)

theorem quotedAll_char_cons {c : Char} (hc : isPlain c = false) (rest : List Item) :
    quotedAll (.char c :: rest) = '\\' :: c :: quotedAll rest := by
  rw [quotedAll_cons, quoted_of_not_isPlain hc]
  rfl

/-- Inside of a character there is the character itself, if it is quoted. -/
theorem eq_of_suffix_quoted {c : Char} {s : List Char} (hs : s <:+ (Item.char c).quoted)
    (hne : s ≠ []) (hproper : s ≠ (Item.char c).quoted) : s = [c] ∧ isPlain c = false := by
  cases hc : isPlain c with
  | true =>
      rw [quoted_of_isPlain hc] at hs hproper
      rcases List.suffix_cons_iff.mp hs with heq | hs
      · exact absurd heq hproper
      · exact absurd (List.suffix_nil.mp hs) hne
  | false =>
      rw [quoted_of_not_isPlain hc] at hs hproper
      rcases List.suffix_cons_iff.mp hs with heq | hs
      · exact absurd heq hproper
      · rcases List.suffix_cons_iff.mp hs with heq | hs
        · exact ⟨heq, rfl⟩
        · exact absurd (List.suffix_nil.mp hs) hne

/-- What follows does not begin with a quoted character on its own. -/
theorem head?_quotedAll {items : List Item} {c : Char} (h : (quotedAll items).head? = some c)
    (hc : isPlain c = false) : c = '\\' ∨ c = '(' ∧ ∀ d, items.head? ≠ some (.char d) := by
  cases items with
  | nil => exact absurd h (by simp [quotedAll])
  | cons item rest =>
      rw [quotedAll_cons] at h
      rcases quoted_cases item with ⟨d, rfl, hd, hquoted⟩ | ⟨d, rfl, hd, hquoted⟩ | ⟨hne, s, hquoted⟩
      · rw [hquoted, List.singleton_append, List.head?_cons, Option.some.injEq] at h
        rw [h, hc] at hd
        exact Bool.noConfusion hd
      · rw [hquoted] at h
        exact Or.inl (Option.some.inj h).symm
      · rw [hquoted] at h
        exact Or.inr ⟨(Option.some.inj h).symm, fun d hd => hne d (Option.some.inj hd)⟩

/-! Placeholders. -/

/-- Items of which no rule has been applied yet. -/
def Item.IsChar (item : Item) : Prop :=
  ∃ c, item = .char c

theorem placeholderRule_quotedAll (items : List Item) :
    placeholderRule (quotedAll items) =
      (placeholderItem items).map fun (made, after) => (made.quoted, quotedAll after) := by
  by_cases h : ∃ rest, items = .char ':' :: rest
  · obtain ⟨rest, rfl⟩ := h
    obtain ⟨htake, hdrop⟩ := takeWhile_quotedAll (fun _ => isPlain_of_isNameCharacter) rest
    rw [quotedAll_char_cons (by decide)]
    simp only [placeholderRule, placeholderItem, htake, hdrop]
    cases hspan : spanChars isNameCharacter rest with
    | mk name after =>
        cases name with
        | nil => rfl
        | cons c name => rfl
  · have hitem : placeholderItem items = none := by
      unfold placeholderItem
      split
      · exact absurd ⟨_, rfl⟩ h
      · rfl
    rw [hitem]
    unfold placeholderRule
    split
    · rename_i rest heq
      obtain ⟨rest', hitems, -⟩ := eq_of_quotedAll_eq heq
      exact absurd ⟨rest', hitems⟩ h
    · rfl

theorem simulates_placeholder :
    Simulates placeholderRule placeholderItem Item.IsChar where
  atItem item rest _ := by
    rw [← quotedAll_cons, placeholderRule_quotedAll]
  inside item rest s hitems hs hne hproper := by
    obtain ⟨c, rfl⟩ := hitems item List.mem_cons_self
    obtain ⟨rfl, hc⟩ := eq_of_suffix_quoted hs hne hproper
    unfold placeholderRule
    split
    · rename_i behind heq
      have hhead : (quotedAll rest).head? = some ':' := by
        rw [List.singleton_append] at heq
        rw [(List.cons.inj heq).2, List.head?_cons]
      rcases head?_quotedAll hhead (by decide) with heq | ⟨heq, -⟩
      · exact absurd heq (by decide)
      · exact absurd heq (by decide)
    · rfl

/-! What was put in. -/

/-- Text in which backslashes stand before the letters of `\b` and `\w` only. -/
inductive Made : List Char → Prop
  | nil : Made []
  | char {c : Char} {s : List Char} (hc : c ≠ '\\') (hs : Made s) : Made (c :: s)
  | escape {c : Char} {s : List Char} (hc : c = 'b' ∨ c = 'w') (hs : Made s) :
      Made ('\\' :: c :: s)

theorem Made.append {front back : List Char} (hfront : Made front) (hback : Made back) :
    Made (front ++ back) := by
  induction hfront with
  | nil => exact hback
  | char hc hs ih => exact .char hc ih
  | escape hc hs ih => exact .escape hc ih

theorem made_of_not_mem {s : List Char} (h : '\\' ∉ s) : Made s := by
  induction s with
  | nil => exact .nil
  | cons c s ih =>
      simp only [List.mem_cons, not_or] at h
      exact .char (Ne.symm h.1) (ih h.2)

/-- A backslash in such a text stands before one of the letters. -/
theorem Made.of_suffix {text s : List Char} (h : Made text) (hs : '\\' :: s <:+ text) :
    ∃ c s', s = c :: s' ∧ (c = 'b' ∨ c = 'w') := by
  induction h with
  | nil => exact absurd (List.suffix_nil.mp hs) (List.cons_ne_nil _ _)
  | char hc h ih =>
      rcases List.suffix_cons_iff.mp hs with heq | hs
      · exact absurd (List.cons.inj heq).1.symm hc
      · exact ih hs
  | escape hc h ih =>
      rcases List.suffix_cons_iff.mp hs with heq | hs
      · exact ⟨_, _, (List.cons.inj heq).2, hc⟩
      · rcases List.suffix_cons_iff.mp hs with heq | hs
        · rw [← (List.cons.inj heq).1] at hc
          rcases hc with hc | hc
          · exact absurd hc (by decide)
          · exact absurd hc (by decide)
        · exact ih hs

theorem made_placeholderGroups {name : List Char} (h : '\\' ∉ name) :
    Made (placeholderGroups name) := by
  have hname := made_of_not_mem h
  rw [placeholderGroups_eq]
  refine ((((((made_of_not_mem ?_).append hname).append (made_of_not_mem ?_)).append hname).append
    ?_).append hname).append ?_
  · decide
  · decide
  · repeat' first
      | exact .nil
      | refine .char (by decide) ?_
      | refine .escape (by decide) ?_
  · repeat' first
      | exact .nil
      | refine .char (by decide) ?_
      | refine .escape (by decide) ?_

theorem made_maybe {text : List Char} (h : '\\' ∉ text) : Made (maybe text) := by
  apply made_of_not_mem
  change '\\' ∉ ['(', '?', ':'] ++ text ++ [')', '?']
  simp [h]

theorem made_maybeSpace {lead : Option Char} (h : ∀ c ∈ lead, Unicode.isSpace c = true) :
    Made (maybeSpace lead) := by
  cases lead with
  | none => exact .nil
  | some c =>
      apply made_maybe
      have hc : c ≠ '\\' := by
        rintro rfl
        exact absurd (h '\\' rfl) (by decide)
      simpa using Ne.symm hc

theorem not_mem_of_forall {p : Char → Bool} {text : List Char} (hp : p '\\' = false)
    (h : ∀ c ∈ text, p c = true) : '\\' ∉ text := by
  intro hmem
  rw [h _ hmem] at hp
  exact Bool.noConfusion hp

/-- What the rules put in has no other backslashes. -/
theorem made_quoted {item : Item} (h : item.WellFormed) (hchar : ∀ c, item ≠ .char c) :
    Made item.quoted := by
  cases item with
  | char c => exact absurd rfl (hchar c)
  | placeholder name =>
      exact made_placeholderGroups (not_mem_of_forall (by decide) h.2)
  | optional lead text trail =>
      exact ((made_maybeSpace h.2.2.1).append
        (made_maybe (not_mem_of_forall (by decide) h.2.1))).append (made_maybeSpace h.2.2.2)
  | choice left right =>
      apply made_of_not_mem
      have hleft : '\\' ∉ left := not_mem_of_forall (by decide) h.1.2
      have hright : '\\' ∉ right := not_mem_of_forall (by decide) h.2.2
      change '\\' ∉ ['(', '?', ':'] ++ left ++ '|' :: right ++ [')']
      simp [hleft, hright]

/-- What the rules put in ends with a parenthesis or a question mark. -/
theorem eq_of_suffix_made {item : Item} (hchar : ∀ c, item ≠ .char c) {c : Char}
    (h : [c] <:+ item.quoted) : c = ')' ∨ c = '?' := by
  have hlast : ∃ front d, item.quoted = front ++ [d] ∧ (d = ')' ∨ d = '?') := by
    cases item with
    | char c => exact absurd rfl (hchar c)
    | placeholder name =>
        have hsplit : ['.', 'b', 'a', 'r', 'e', '>', '\\', 'w', '+', ')', '\\', 'b', ')'] =
            ['.', 'b', 'a', 'r', 'e', '>', '\\', 'w', '+', ')', '\\', 'b'] ++ [')'] := rfl
        rw [Item.quoted, placeholderGroups_eq, hsplit, ← List.append_assoc]
        exact ⟨_, ')', rfl, Or.inl rfl⟩
    | optional lead text trail =>
        cases trail with
        | none =>
            exact ⟨maybeSpace lead ++ (['(', '?', ':'] ++ text ++ [')']), '?', by
              simp [Item.quoted, maybe, maybeSpace], Or.inr rfl⟩
        | some c =>
            exact ⟨maybeSpace lead ++ maybe text ++ ['(', '?', ':', c, ')'], '?', by
              simp [Item.quoted, maybe, maybeSpace], Or.inr rfl⟩
    | choice left right =>
        exact ⟨_, ')', rfl, Or.inl rfl⟩
  obtain ⟨front, d, hquoted, hd⟩ := hlast
  obtain ⟨t, ht⟩ := h
  rw [hquoted] at ht
  have hcd := List.append_inj_right' ht rfl
  rwa [(List.cons.inj hcd).1]

/-! Optional parts. -/

/-- Items before the pass for optional parts. -/
def Item.IsEarly (item : Item) : Prop :=
  (∃ c, item = .char c) ∨ ∃ name, item = .placeholder name ∧ item.WellFormed

theorem quotedAll_of_isPlain {cs : List Char} (h : ∀ c ∈ cs, isPlain c = true)
    (rest : List Item) : quotedAll (cs.map .char ++ rest) = cs ++ quotedAll rest := by
  induction cs with
  | nil => rfl
  | cons c cs ih =>
      rw [List.map_cons, List.cons_append, quotedAll_cons,
        quoted_of_isPlain (h c List.mem_cons_self),
        ih fun d hd => h d (List.mem_cons_of_mem c hd)]
      rfl

theorem spanChars_stops {p : Char → Bool} {items rest : List Item} {c : Char}
    (h : (spanChars p items).2 = .char c :: rest) : p c = false := by
  induction items with
  | nil => exact absurd h (by simp [spanChars])
  | cons item items ih =>
      unfold spanChars at h
      split at h
      · rename_i d others heq
        obtain ⟨rfl, rfl⟩ := List.cons.inj heq
        by_cases hd : p d = true
        · rw [if_pos hd] at h
          exact ih h
        · rw [if_neg hd] at h
          rw [← Item.char.inj (List.cons.inj h).1]
          simpa using hd
      · rename_i hne
        exact absurd h (hne c rest)

/-- The text of a placeholder reaches its first backslash before any parenthesis is closed
by one. -/
theorem placeholderGroups_eq_append {name : List Char} (h : '\\' ∉ name) :
    ∃ front back, placeholderGroups name = front ++ '\\' :: 'b' :: back ∧ '\\' ∉ front := by
  refine ⟨['(', '?', ':', '"', '(', '?', 'P', '<'] ++ name ++
      ['>', '[', '^', '"', ']', '+', ')', '"', '|', '\'', '(', '?', 'P', '<'] ++ name ++
      ['.', 's', 'i', 'n', 'g', 'l', 'e', '>', '[', '^', '\'', ']', '+', ')', '\'', '|'],
    ['(', '?', 'P', '<'] ++ name ++
      ['.', 'b', 'a', 'r', 'e', '>', '\\', 'w', '+', ')', '\\', 'b', ')'], ?_, ?_⟩
  · rw [placeholderGroups_eq]
    simp
  · simp [h]

theorem span_append {p : Char → Bool} {front : List Char} (c : Char) (back : List Char)
    (hfront : ∀ d ∈ front, p d = true) (hc : p c = false) :
    (front ++ c :: back).takeWhile p = front ∧ (front ++ c :: back).dropWhile p = c :: back := by
  rw [List.takeWhile_append_of_pos hfront, List.dropWhile_append_of_pos hfront,
    List.takeWhile_cons, List.dropWhile_cons, hc]
  simp

/-- Without a parenthesis in front there is no optional part. -/
theorem takeParenthesized?_of_not_open {items : List Item}
    (hopen : ¬ ∃ inner, items = .char '(' :: inner) :
    takeParenthesized? (quotedAll items) = none ∧ parenthesized? items = none := by
  constructor
  · unfold takeParenthesized?
    split
    · rename_i inner heq
      obtain ⟨rest, hitems, -⟩ := eq_of_quotedAll_eq heq
      exact absurd ⟨rest, hitems⟩ hopen
    · rfl
  · unfold parenthesized?
    split
    · exact absurd ⟨_, rfl⟩ hopen
    · rfl

/-- A placeholder does not close a parenthesis: the first backslash of its groups stands before
a letter. -/
theorem takeParenthesized?_placeholder {text name : List Char} {after : List Item}
    (htext : ∀ c ∈ text, decide (c ≠ '\\') = true) (hname : (Item.placeholder name).WellFormed) :
    takeParenthesized? ('\\' :: '(' :: (text ++ quotedAll (.placeholder name :: after))) = none := by
  obtain ⟨front, back, hgroups, hfront⟩ :=
    placeholderGroups_eq_append (not_mem_of_forall (by decide) hname.2)
  have hall : ∀ c ∈ text ++ front, decide (c ≠ '\\') = true := by
    intro c hc
    rcases List.mem_append.mp hc with hc | hc
    · exact htext c hc
    · exact decide_eq_true fun heq => hfront (heq ▸ hc)
  obtain ⟨htake, hdrop⟩ := span_append '\\' ('b' :: (back ++ quotedAll after)) hall (by decide)
  have heq : text ++ quotedAll (.placeholder name :: after) =
      (text ++ front) ++ '\\' :: 'b' :: (back ++ quotedAll after) := by
    rw [quotedAll_cons, Item.quoted, hgroups]
    simp
  rw [heq, takeParenthesized?, htake, hdrop]
  simp

theorem takeParenthesized?_quotedAll {items : List Item} (h : ∀ i ∈ items, i.IsEarly) :
    takeParenthesized? (quotedAll items) =
      (parenthesized? items).map fun (text, after) => (text, quotedAll after) := by
  by_cases hopen : ∃ inner, items = .char '(' :: inner
  · obtain ⟨inner, rfl⟩ := hopen
    rw [quotedAll_char_cons (by decide)]
    have hplain := spanChars_forall isPlain inner
    have hstops := @spanChars_stops isPlain inner
    have hinner := spanChars_append isPlain inner
    have hafter := (spanChars_suffix isPlain inner).subset
    simp only [parenthesized?]
    generalize spanChars isPlain inner = span at hplain hstops hinner hafter
    obtain ⟨text, after⟩ := span
    simp only at hplain hstops hinner hafter
    have htext : ∀ c ∈ text, decide (c ≠ '\\') = true := by
      intro c hc
      rw [decide_eq_true_eq]
      rintro rfl
      exact absurd (hplain _ hc) (by decide)
    rw [← hinner, quotedAll_of_isPlain hplain]
    cases after with
    | nil =>
        have htake : text.takeWhile (· ≠ '\\') = text := List.takeWhile_eq_self_iff.mpr htext
        have hdrop : text.dropWhile (· ≠ '\\') = [] := List.dropWhile_eq_nil_iff.mpr htext
        rw [show quotedAll [] = [] from rfl, List.append_nil, takeParenthesized?, htake, hdrop]
        cases text with
        | nil => rfl
        | cons c text => rfl
    | cons item after =>
        rcases h item (List.mem_cons_of_mem _ (hafter List.mem_cons_self)) with
          ⟨c, rfl⟩ | ⟨name, rfl, hname⟩
        · obtain ⟨htake, hdrop⟩ := span_append '\\' (c :: quotedAll after) htext (by decide)
          rw [quotedAll_char_cons (hstops rfl), takeParenthesized?, htake, hdrop]
          cases text with
          | nil => rfl
          | cons first text =>
              by_cases hclose : c = ')'
              · rw [hclose]
                rfl
              · simp [hclose]
        · rw [takeParenthesized?_placeholder htext hname]
          cases text with
          | nil => simp
          | cons first text => simp
  · obtain ⟨htake, hitems⟩ := takeParenthesized?_of_not_open hopen
    rw [htake, hitems]
    rfl

theorem optionalPart_quotedAll (lead : Option Char) (text : List Char) (after : List Item) :
    (maybeSpace lead ++ (optionalPart text (quotedAll after)).1,
        (optionalPart text (quotedAll after)).2) =
      ((withTrail lead text after).1.quoted, quotedAll (withTrail lead text after).2) := by
  have hnone : (Item.optional lead text none).quoted = maybeSpace lead ++ maybe text := by
    rw [Item.quoted, maybeSpace, List.append_nil]
  cases after with
  | nil => simp [quotedAll, optionalPart, withTrail, hnone]
  | cons item rest =>
      rcases quoted_cases item with ⟨c, rfl, hc, hquoted⟩ | ⟨c, rfl, hc, hquoted⟩ | ⟨hne, s, hquoted⟩
      · rw [quotedAll_cons, hquoted, List.singleton_append]
        by_cases hspace : Unicode.isSpace c = true
        · simp [optionalPart, withTrail, hspace, Item.quoted, maybeSpace]
        · simp [optionalPart, withTrail, hspace, hnone, quotedAll_cons, hquoted]
      · have hspace : Unicode.isSpace c = false :=
          isSpace_of_mem_quotedCharacters c (isPlain_eq_false.mp hc)
        have hbackslash : Unicode.isSpace '\\' = false := by decide
        rw [quotedAll_char_cons hc]
        simp [optionalPart, withTrail, hspace, hbackslash, hnone, quotedAll_char_cons hc]
      · have hparenthesis : Unicode.isSpace '(' = false := by decide
        have htrail : withTrail lead text (item :: rest) =
            (.optional lead text none, item :: rest) := by
          unfold withTrail
          split
          · rename_i heq
            exact absurd (List.cons.inj heq).1 (hne _)
          · rfl
        rw [htrail, quotedAll_cons, hquoted]
        simp [optionalPart, hparenthesis, hnone]

theorem optionalRule_of_not_isSpace {c : Char} (hc : Unicode.isSpace c = false)
    (rest : List Char) :
    optionalRule (c :: rest) =
      (takeParenthesized? (c :: rest)).map fun (text, after) => optionalPart text after := by
  simp [optionalRule, hc]

theorem map_optionalPart {items : List Item} (h : ∀ i ∈ items, i.IsEarly) (lead : Option Char) :
    ((takeParenthesized? (quotedAll items)).map fun (text, after) =>
        (maybeSpace lead ++ (optionalPart text after).1, (optionalPart text after).2)) =
      ((parenthesized? items).map fun (text, after) => withTrail lead text after).map
        fun (made, after) => (made.quoted, quotedAll after) := by
  rw [takeParenthesized?_quotedAll h]
  cases parenthesized? items with
  | none => rfl
  | some found => exact congrArg some (optionalPart_quotedAll lead found.1 found.2)

theorem optionalRule_quotedAll {item : Item} {rest : List Item}
    (h : ∀ i ∈ item :: rest, i.IsEarly) :
    optionalRule (quotedAll (item :: rest)) =
      (optionalItem (item :: rest)).map fun (made, after) => (made.quoted, quotedAll after) := by
  have hrest : ∀ i ∈ rest, i.IsEarly := fun i hi => h i (List.mem_cons_of_mem item hi)
  have hwhole := map_optionalPart h none
  have hbehind (lead : Option Char) := map_optionalPart hrest lead
  rcases h item List.mem_cons_self with ⟨c, rfl⟩ | ⟨name, rfl, hname⟩
  · by_cases hspace : Unicode.isSpace c = true
    · rw [quotedAll_cons, quoted_of_isPlain (isPlain_of_isSpace hspace), List.singleton_append]
      simp only [optionalRule, optionalItem, hspace, ↓reduceIte]
      exact hbehind (some c)
    · simp only [optionalItem, hspace, Bool.false_eq_true, ↓reduceIte]
      rw [← hwhole]
      cases hc : isPlain c with
      | true =>
          rw [quotedAll_cons, quoted_of_isPlain hc, List.singleton_append,
            optionalRule_of_not_isSpace (by simpa using hspace)]
          rfl
      | false =>
          rw [quotedAll_char_cons hc, optionalRule_of_not_isSpace (by decide)]
          rfl
  · have hquoted : ∃ s, quotedAll (.placeholder name :: rest) = '(' :: s := by
      rw [quotedAll_cons, Item.quoted, placeholderGroups_eq]
      exact ⟨_, rfl⟩
    obtain ⟨s, hs⟩ := hquoted
    rw [hs, optionalRule_of_not_isSpace (by decide)]
    rfl

/-- Parentheses are not quoted inside of what was put in. -/
theorem takeParenthesized?_of_made {text s back : List Char} (h : Made text) (hs : s <:+ text)
    (hne : s ≠ []) : takeParenthesized? (s ++ back) = none := by
  cases s with
  | nil => exact absurd rfl hne
  | cons c s =>
      by_cases hc : c = '\\'
      · subst hc
        obtain ⟨d, s', rfl, hd⟩ := h.of_suffix hs
        rcases hd with rfl | rfl
        · rfl
        · rfl
      · unfold takeParenthesized?
        split
        · rename_i heq
          exact absurd (List.cons.inj heq).1 hc
        · rfl

/-- A quoted backslash in front of a placeholder quotes no parenthesis. -/
theorem takeParenthesized?_backslash {rest : List Item} (h : ∀ i ∈ rest, i.IsEarly) :
    takeParenthesized? ('\\' :: quotedAll rest) = none := by
  unfold takeParenthesized?
  split
  · rename_i inner heq
    have hopen : quotedAll rest = '(' :: inner := (List.cons.inj heq).2
    have hhead : (quotedAll rest).head? = some '(' := by rw [hopen, List.head?_cons]
    rcases head?_quotedAll hhead (by decide) with hc | ⟨-, hchar⟩
    · exact absurd hc (by decide)
    · cases rest with
      | nil => exact absurd hopen (by simp [quotedAll])
      | cons item rest =>
          rcases h item List.mem_cons_self with ⟨c, rfl⟩ | ⟨name, rfl, hname⟩
          · exact absurd rfl (hchar c)
          · obtain ⟨front, back, hgroups, hfront⟩ :=
              placeholderGroups_eq_append (not_mem_of_forall (by decide) hname.2)
            rw [quotedAll_cons, Item.quoted, hgroups] at hopen
            cases front with
            | nil => exact absurd (List.cons.inj hopen).1 (by decide)
            | cons c front =>
                have hall : ∀ d ∈ front, decide (d ≠ '\\') = true := by
                  intro d hd
                  exact decide_eq_true fun heq => hfront (heq ▸ List.mem_cons_of_mem c hd)
                obtain ⟨htake, hdrop⟩ := span_append '\\' ('b' :: (back ++ quotedAll rest)) hall
                  (by decide)
                have hinner : inner = front ++ '\\' :: 'b' :: (back ++ quotedAll rest) := by
                  rw [← (List.cons.inj hopen).2]
                  simp
                rw [hinner, htake, hdrop]
                simp
  · rfl

theorem simulates_optional : Simulates optionalRule optionalItem Item.IsEarly where
  atItem item rest h := by
    rw [← quotedAll_cons, optionalRule_quotedAll h]
  inside item rest s hitems hs hne hproper := by
    have hrest : ∀ i ∈ rest, i.IsEarly := fun i hi => hitems i (List.mem_cons_of_mem item hi)
    rcases hitems item List.mem_cons_self with ⟨c, rfl⟩ | ⟨name, rfl, hname⟩
    · obtain ⟨rfl, hc⟩ := eq_of_suffix_quoted hs hne hproper
      rw [List.singleton_append,
        optionalRule_of_not_isSpace (isSpace_of_mem_quotedCharacters c (isPlain_eq_false.mp hc))]
      by_cases hbackslash : c = '\\'
      · rw [hbackslash, takeParenthesized?_backslash hrest]
        rfl
      · have hnone : takeParenthesized? (c :: quotedAll rest) = none := by
          unfold takeParenthesized?
          split
          · rename_i heq
            exact absurd (List.cons.inj heq).1 hbackslash
          · rfl
        rw [hnone]
        rfl
    · have hmade := made_quoted hname (by simp)
      cases s with
      | nil => exact absurd rfl hne
      | cons c s =>
          cases hspace : Unicode.isSpace c with
          | false =>
              rw [List.cons_append, optionalRule_of_not_isSpace hspace, ← List.cons_append,
                takeParenthesized?_of_made hmade hs hne]
              rfl
          | true =>
              have hs' : s <:+ (Item.placeholder name).quoted := (List.suffix_cons c s).trans hs
              have hlast : s ≠ [] := by
                rintro rfl
                rcases eq_of_suffix_made (by simp) hs with rfl | rfl
                · exact absurd hspace (by decide)
                · exact absurd hspace (by decide)
              simp only [List.cons_append, optionalRule, hspace, ↓reduceIte]
              rw [takeParenthesized?_of_made hmade hs' hlast]
              rfl

/-! Choices. -/

/-- Items before the pass for choices. -/
def Item.IsLate (item : Item) : Prop :=
  (∃ c, item = .char c) ∨ (∀ c, item ≠ .char c) ∧ item.WellFormed

theorem choiceRule_quotedAll (items : List Item) :
    choiceRule (quotedAll items) =
      (choiceItem items).map fun (made, after) => (made.quoted, quotedAll after) := by
  obtain ⟨htake, hdrop⟩ := takeWhile_quotedAll (fun _ => isPlain_of_isWord) items
  unfold choiceRule choiceItem
  rw [htake, hdrop]
  generalize spanChars Unicode.isWord items = span
  obtain ⟨left, after⟩ := span
  cases left with
  | nil => rfl
  | cons first left =>
      by_cases hslash : ∃ rest, after = .char '/' :: rest
      · obtain ⟨rest, rfl⟩ := hslash
        obtain ⟨htake', hdrop'⟩ := takeWhile_quotedAll (fun _ => isPlain_of_isWord) rest
        rw [quotedAll_char_cons (by decide)]
        simp only [htake', hdrop']
        generalize spanChars Unicode.isWord rest = span
        obtain ⟨right, behind⟩ := span
        cases right with
        | nil => rfl
        | cons d right => rfl
      · have hquoted : ∀ s, quotedAll after ≠ '\\' :: '/' :: s := by
          intro s hs
          obtain ⟨rest, hafter, -⟩ := eq_of_quotedAll_eq hs
          exact hslash ⟨rest, hafter⟩
        split
        · rename_i heq
          exact absurd heq (hquoted _)
        · split
          · rename_i heq
            exact absurd ⟨_, (Prod.mk.inj heq).2⟩ hslash
          · rfl

theorem choiceRule_of_not_isWord {c : Char} (hc : Unicode.isWord c = false) (rest : List Char) :
    choiceRule (c :: rest) = none := by
  simp [choiceRule, hc]

/-- Slashes are not quoted inside of what was put in, and no word goes on behind it. -/
theorem choiceRule_of_made {item : Item} (hmade : Made item.quoted)
    (hchar : ∀ c, item ≠ .char c) {s back : List Char} (hs : s <:+ item.quoted) (hne : s ≠ []) :
    choiceRule (s ++ back) = none := by
  have hstop : s.dropWhile Unicode.isWord ≠ [] := by
    intro hnil
    have hall := List.dropWhile_eq_nil_iff.mp hnil
    obtain ⟨front, c, rfl⟩ : ∃ front c, s = front ++ [c] :=
      ⟨s.dropLast, s.getLast hne, (List.dropLast_concat_getLast hne).symm⟩
    have hc := hall c (by simp)
    rcases eq_of_suffix_made hchar ((List.suffix_append front [c]).trans hs) with rfl | rfl
    · exact absurd hc (by decide)
    · exact absurd hc (by decide)
  have hdrop : (s ++ back).dropWhile Unicode.isWord = s.dropWhile Unicode.isWord ++ back := by
    rw [List.dropWhile_append, if_neg (by simpa using hstop)]
  have hsuffix := (List.dropWhile_suffix Unicode.isWord (l := s)).trans hs
  unfold choiceRule
  rw [hdrop]
  cases hrest : s.dropWhile Unicode.isWord with
  | nil => exact absurd hrest hstop
  | cons c rest =>
      rw [hrest] at hsuffix
      split
      · rename_i heq
        have hc : c = '\\' := (List.cons.inj heq).1
        rw [hc] at hsuffix
        obtain ⟨d, rest', rfl, hd⟩ := hmade.of_suffix hsuffix
        have hslash : d = '/' := (List.cons.inj (List.cons.inj heq).2).1
        rw [hslash] at hd
        rcases hd with hd | hd
        · exact absurd hd (by decide)
        · exact absurd hd (by decide)
      · rfl

theorem simulates_choice : Simulates choiceRule choiceItem Item.IsLate where
  atItem item rest _ := by
    rw [← quotedAll_cons, choiceRule_quotedAll]
  inside item rest s hitems hs hne hproper := by
    rcases hitems item List.mem_cons_self with ⟨c, rfl⟩ | ⟨hchar, hwell⟩
    · obtain ⟨rfl, hc⟩ := eq_of_suffix_quoted hs hne hproper
      exact choiceRule_of_not_isWord
        (isWord_of_mem_quotedCharacters c (isPlain_eq_false.mp hc)) _
    · exact choiceRule_of_made (made_quoted hwell hchar) hchar hs hne

/-! The regular expression. -/

/-- An item as the regular expression of a pattern writes it. -/
def Item.source : Item → List Char
  | .char c => if c ∈ quotedCharacters ∧ c ∉ inertCharacters then ['\\', c] else [c]
  | item => item.quoted

theorem unescape_made {text : List Char} (h : Made text) (rest : List Char) :
    unescape inertCharacters (text ++ rest) = text ++ unescape inertCharacters rest := by
  induction h with
  | nil => rfl
  | char hc hs ih => rw [List.cons_append, unescape_cons hc, ih, List.cons_append]
  | escape hc hs ih =>
      rcases hc with rfl | rfl
      · rw [List.cons_append, List.cons_append, unescape, if_pos rfl, if_neg (by decide), ih]
        rfl
      · rw [List.cons_append, List.cons_append, unescape, if_pos rfl, if_neg (by decide), ih]
        rfl

theorem source_of_ne_char {item : Item} (h : ∀ c, item ≠ .char c) : item.source = item.quoted := by
  cases item with
  | char c => exact absurd rfl (h c)
  | placeholder name => rfl
  | optional lead text trail => rfl
  | choice left right => rfl

/-- Backslashes before characters that mean nothing special are left out. -/
theorem unescape_quotedAll {items : List Item} (h : ∀ i ∈ items, i.WellFormed) :
    unescape inertCharacters (quotedAll items) = items.flatMap Item.source := by
  induction items with
  | nil => rfl
  | cons item rest ih =>
      have hrest := ih fun i hi => h i (List.mem_cons_of_mem item hi)
      rw [quotedAll_cons, List.flatMap_cons]
      by_cases hchar : ∃ c, item = .char c
      · obtain ⟨c, rfl⟩ := hchar
        cases hc : isPlain c with
        | true =>
            have hne : c ≠ '\\' := by
              rintro rfl
              exact absurd hc (by decide)
            have hsource : (Item.char c).source = [c] :=
              if_neg fun hmem => of_decide_eq_true hc hmem.1
            rw [quoted_of_isPlain hc, List.singleton_append, unescape_cons hne, hrest, hsource,
              List.singleton_append]
        | false =>
            have hmem := isPlain_eq_false.mp hc
            rw [quoted_of_not_isPlain hc, List.cons_append, List.singleton_append, unescape,
              if_pos rfl, hrest, Item.source]
            by_cases hinert : c ∈ inertCharacters
            · simp [hinert]
            · simp [hinert, hmem]
      · have hne : ∀ c, item ≠ .char c := fun c hc => hchar ⟨c, hc⟩
        rw [unescape_made (made_quoted (h item List.mem_cons_self) hne), hrest,
          source_of_ne_char hne]

theorem isChar_of_mem_map {cs : List Char} : ∀ i ∈ cs.map Item.char, i.IsChar := by
  intro i hi
  obtain ⟨c, -, rfl⟩ := List.mem_map.mp hi
  exact ⟨c, rfl⟩

theorem isEarly_of_mem_takeAll {items : List Item} (h : ∀ i ∈ items, i.IsChar) :
    ∀ i ∈ placeholderItem.takeAll items, i.IsEarly := by
  have hmakes : placeholderItem.Makes Item.IsEarly := by
    intro item rest made after hsome
    obtain ⟨⟨hwell, name, rfl⟩, hafter⟩ := placeholderItem_makes hsome
    exact ⟨Or.inr ⟨name, rfl, hwell⟩, hafter⟩
  exact hmakes.forall_takeAll fun i hi => Or.inl (h i hi)

theorem isLate_of_mem_takeAll {items : List Item} (h : ∀ i ∈ items, i.IsEarly) :
    ∀ i ∈ optionalItem.takeAll items, i.IsLate := by
  have hmakes : optionalItem.Makes Item.IsLate := by
    intro item rest made after hsome
    obtain ⟨⟨hwell, lead, text, trail, rfl⟩, hafter⟩ := optionalItem_makes hsome
    exact ⟨Or.inr ⟨by simp, hwell⟩, hafter⟩
  apply hmakes.forall_takeAll
  intro i hi
  rcases h i hi with hchar | ⟨name, rfl, hwell⟩
  · exact Or.inl hchar
  · exact Or.inr ⟨by simp, hwell⟩

/-- The regular expression of a pattern is that of its items in a row. -/
theorem toRegex_eq_source (pattern : List Char) :
    toRegex pattern = '^' :: ((items pattern).flatMap Item.source ++ ['$']) := by
  have hchars : ∀ i ∈ pattern.map Item.char, i.IsChar := isChar_of_mem_map
  have hearly := isEarly_of_mem_takeAll hchars
  have hlate := isLate_of_mem_takeAll hearly
  simp only [toRegex]
  rw [quote_eq_quotedAll, simulates_placeholder.replaceAll placeholderItem_makes hchars,
    simulates_optional.replaceAll optionalItem_makes hearly,
    simulates_choice.replaceAll choiceItem_makes hlate]
  rw [← items, unescape_quotedAll wellFormed_of_mem_items]
  rfl

end Turnip

end Stepwise
