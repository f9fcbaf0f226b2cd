import Stepwise.Pattern.Turnip

/-!
# The items of a turnip pattern

A turnip pattern is a row of items: placeholders, optional parts, choices between two words
and single characters. Placeholders are taken first, optional parts from what is left, and
choices from what is left then. Main statements: the names of the placeholders are the words
behind the colons of the pattern, and the items make up the pattern.
-/

namespace Stepwise.Turnip

/-- An item of a pattern. -/
inductive Item
  /-- A character that stands for itself. -/
  | char (c : Char)
  /-- A value with a name. -/
  | placeholder (name : List Char)
  /-- A text that may be missing, as may the white space around it. -/
  | optional (lead : Option Char) (text : List Char) (trail : Option Char)
  /-- One of two words. -/
  | choice (left right : List Char)
deriving DecidableEq, Repr

/-- A rule takes an item from the front of a row and gives what follows it. -/
abbrev ItemRule := List Item → Option (Item × List Item)

/-- Takes items by a rule wherever it applies, the leftmost first. -/
def ItemRule.takeAll (rule : ItemRule) : List Item → List Item
  | [] => []
  | item :: rest =>
      match rule (item :: rest) with
      | none => item :: rule.takeAll rest
      | some (made, after) =>
          if after.length ≤ rest.length then made :: rule.takeAll after
          else item :: rule.takeAll rest
termination_by items => items.length

/-- The single characters in front of a row, as long as they satisfy a condition. -/
def spanChars (p : Char → Bool) : List Item → List Char × List Item
  | .char c :: rest =>
      if p c then (c :: (spanChars p rest).1, (spanChars p rest).2) else ([], .char c :: rest)
  | items => ([], items)

/-- A placeholder is a colon with a name behind it. -/
def placeholderItem : ItemRule
  | .char ':' :: rest =>
      match spanChars isNameCharacter rest with
      | ([], _) => none
      | (name, after) => some (.placeholder name, after)
  | _ => none

/-- Whether a character is not quoted. -/
def isPlain (c : Char) : Bool :=
  c ∉ quotedCharacters

/-- Some characters in parentheses, none of which is quoted. -/
def parenthesized? : List Item → Option (List Char × List Item)
  | .char '(' :: rest =>
      match spanChars isPlain rest with
      | (first :: others, .char ')' :: after) => some (first :: others, after)
      | _ => none
  | _ => none

/-- The optional part of a text with the white space that follows, if there is some. -/
def withTrail (lead : Option Char) (text : List Char) : List Item → Item × List Item
  | .char c :: rest =>
      if Unicode.isSpace c then (.optional lead text (some c), rest)
      else (.optional lead text none, .char c :: rest)
  | items => (.optional lead text none, items)

/-- An optional part is a text in parentheses with one character of white space on either
side, if there is one. -/
def optionalItem : ItemRule
  | .char c :: rest =>
      if Unicode.isSpace c then
        (parenthesized? rest).map fun (text, after) => withTrail (some c) text after
      else (parenthesized? (.char c :: rest)).map fun (text, after) => withTrail none text after
  | _ => none

/-- A choice is two words with a slash in between. -/
def choiceItem : ItemRule := fun items =>
  match spanChars Unicode.isWord items with
  | (first :: left, .char '/' :: rest) =>
      match spanChars Unicode.isWord rest with
      | ([], _) => none
      | (right, after) => some (.choice (first :: left) right, after)
  | _ => none

def items (pattern : List Char) : List Item :=
  choiceItem.takeAll (optionalItem.takeAll (placeholderItem.takeAll (pattern.map .char)))

/-- The words directly behind the colons of a pattern. -/
def placeholderNames : List Char → List (List Char)
  | [] => []
  | c :: rest =>
      if c = ':' ∧ rest.takeWhile isNameCharacter ≠ [] then
        rest.takeWhile isNameCharacter :: placeholderNames rest
      else placeholderNames rest

def Item.name? : Item → Option (List Char)
  | .placeholder name => some name
  | _ => none

theorem spanChars_suffix (p : Char → Bool) (items : List Item) :
    (spanChars p items).2 <:+ items := by
  induction items with
  | nil => exact List.suffix_refl _
  | cons item rest ih =>
      cases item with
      | char c =>
          rw [spanChars]
          split
          · exact ih.trans (List.suffix_cons _ _)
          · exact List.suffix_refl _
      | placeholder name => exact List.suffix_refl _
      | optional lead text trail => exact List.suffix_refl _
      | choice left right => exact List.suffix_refl _

theorem spanChars_suffix_of_ne_nil {p : Char → Bool} {item : Item} {rest : List Item}
    (h : (spanChars p (item :: rest)).1 ≠ []) : (spanChars p (item :: rest)).2 <:+ rest := by
  cases item with
  | char c =>
      rw [spanChars] at h ⊢
      split
      · exact spanChars_suffix p rest
      · rename_i hc
        rw [if_neg hc] at h
        exact absurd rfl h
  | placeholder name => exact absurd rfl h
  | optional lead text trail => exact absurd rfl h
  | choice left right => exact absurd rfl h

theorem spanChars_forall (p : Char → Bool) (items : List Item) :
    ∀ c ∈ (spanChars p items).1, p c = true := by
  induction items with
  | nil => simp [spanChars]
  | cons item rest ih =>
      cases item with
      | char c =>
          rw [spanChars]
          split
          · rename_i hc
            intro d hd
            rcases List.mem_cons.mp hd with rfl | hd
            · exact hc
            · exact ih d hd
          · simp
      | placeholder name => simp [spanChars]
      | optional lead text trail => simp [spanChars]
      | choice left right => simp [spanChars]

/-! What the rules take. -/

variable {item made : Item} {rest after : List Item}

theorem eq_of_placeholderItem (h : placeholderItem (item :: rest) = some (made, after)) :
    ∃ name, item = .char ':' ∧ spanChars isNameCharacter rest = (name, after) ∧ name ≠ [] ∧
      made = .placeholder name := by
  unfold placeholderItem at h
  split at h
  · rename_i others heq
    obtain ⟨rfl, rfl⟩ := List.cons.inj heq
    split at h
    · exact absurd h (by simp)
    · rename_i name after' hne hspan
      simp only [Option.some.injEq, Prod.mk.injEq] at h
      obtain ⟨rfl, rfl⟩ := h
      exact ⟨name, rfl, hspan, hne, rfl⟩
  · exact absurd h (by simp)

theorem eq_of_parenthesized? {items : List Item} {text : List Char}
    (h : parenthesized? items = some (text, after)) :
    ∃ inner, items = .char '(' :: inner ∧ spanChars isPlain inner = (text, .char ')' :: after) ∧
      text ≠ [] := by
  unfold parenthesized? at h
  split at h
  · rename_i inner
    split at h
    · rename_i first others after' hspan
      simp only [Option.some.injEq, Prod.mk.injEq] at h
      obtain ⟨rfl, rfl⟩ := h
      exact ⟨inner, rfl, hspan, List.cons_ne_nil _ _⟩
    · exact absurd h (by simp)
  · exact absurd h (by simp)

theorem withTrail_spec (lead : Option Char) (text : List Char) (items : List Item) :
    ∃ trail, (withTrail lead text items).1 = .optional lead text trail ∧
      (∀ c ∈ trail, Unicode.isSpace c = true) ∧ (withTrail lead text items).2 <:+ items := by
  unfold withTrail
  split
  · split
    · rename_i c others hspace
      exact ⟨some c, rfl, by simpa using hspace, List.suffix_cons _ _⟩
    · exact ⟨none, rfl, by simp, List.suffix_refl _⟩
  · exact ⟨none, rfl, by simp, List.suffix_refl _⟩

theorem eq_of_optionalItem (h : optionalItem (item :: rest) = some (made, after)) :
    ∃ lead text between, withTrail lead text between = (made, after) ∧
      ((∃ c, item = .char c ∧ lead = some c ∧ Unicode.isSpace c = true ∧
          parenthesized? rest = some (text, between)) ∨
        lead = none ∧ parenthesized? (item :: rest) = some (text, between)) := by
  unfold optionalItem at h
  split at h
  · rename_i c others heq
    obtain ⟨rfl, rfl⟩ := List.cons.inj heq
    split at h
    · rename_i hspace
      obtain ⟨⟨text, between⟩, hpar, htrail⟩ := Option.map_eq_some_iff.mp h
      exact ⟨some c, text, between, htrail, Or.inl ⟨c, rfl, rfl, hspace, hpar⟩⟩
    · obtain ⟨⟨text, between⟩, hpar, htrail⟩ := Option.map_eq_some_iff.mp h
      exact ⟨none, text, between, htrail, Or.inr ⟨rfl, hpar⟩⟩
  · exact absurd h (by simp)

theorem eq_of_choiceItem {items : List Item} (h : choiceItem items = some (made, after)) :
    ∃ left right rest, left ≠ [] ∧ right ≠ [] ∧
      spanChars Unicode.isWord items = (left, .char '/' :: rest) ∧
      spanChars Unicode.isWord rest = (right, after) ∧ made = .choice left right := by
  unfold choiceItem at h
  split at h
  · rename_i first left rest hspan
    split at h
    · exact absurd h (by simp)
    · rename_i right after' hne hright
      simp only [Option.some.injEq, Prod.mk.injEq] at h
      obtain ⟨rfl, rfl⟩ := h
      exact ⟨first :: left, right, rest, List.cons_ne_nil _ _,
        hne, hspan, hright, rfl⟩
  · exact absurd h (by simp)

/-- A rule makes items of some kind and goes on behind the first item at least. -/
def ItemRule.Makes (rule : ItemRule) (P : Item → Prop) : Prop :=
  ∀ {item rest made after}, rule (item :: rest) = some (made, after) → P made ∧ after <:+ rest

/-- All items are of some kind if those that are made and those that are left are. -/
theorem ItemRule.Makes.forall_takeAll {rule : ItemRule} {P : Item → Prop} (h : rule.Makes P)
    {items : List Item} (hitems : ∀ i ∈ items, P i) : ∀ i ∈ rule.takeAll items, P i := by
  fun_induction ItemRule.takeAll rule items with
  | case1 => exact hitems
  | case2 item rest hnone ih =>
      intro i hi
      rcases List.mem_cons.mp hi with rfl | hi
      · exact hitems _ List.mem_cons_self
      · exact ih (fun j hj => hitems j (List.mem_cons_of_mem item hj)) i hi
  | case3 item rest made after hsome hle ih =>
      obtain ⟨hmade, hafter⟩ := h hsome
      intro i hi
      rcases List.mem_cons.mp hi with rfl | hi
      · exact hmade
      · exact ih (fun j hj => hitems j (List.mem_cons_of_mem item (hafter.subset hj))) i hi
  | case4 item rest made after hsome hlt ih =>
      exact absurd (h hsome).2.length_le hlt

/-- An item as the rules make it. -/
def Item.WellFormed : Item → Prop
  | .char _ => True
  | .placeholder name => name ≠ [] ∧ ∀ c ∈ name, isNameCharacter c = true
  | .optional lead text trail =>
      text ≠ [] ∧ (∀ c ∈ text, isPlain c = true) ∧ (∀ c ∈ lead, Unicode.isSpace c = true) ∧
        ∀ c ∈ trail, Unicode.isSpace c = true
  | .choice left right =>
      (left ≠ [] ∧ ∀ c ∈ left, Unicode.isWord c = true) ∧
        right ≠ [] ∧ ∀ c ∈ right, Unicode.isWord c = true

theorem placeholderItem_makes :
    placeholderItem.Makes fun i => i.WellFormed ∧ ∃ name, i = .placeholder name := by
  intro item rest made after h
  obtain ⟨name, -, hspan, hne, rfl⟩ := eq_of_placeholderItem h
  have hsuffix := spanChars_suffix isNameCharacter rest
  have hall := spanChars_forall isNameCharacter rest
  rw [hspan] at hsuffix hall
  exact ⟨⟨⟨hne, hall⟩, name, rfl⟩, hsuffix⟩

theorem suffix_of_parenthesized? {items : List Item} {text : List Char}
    (h : parenthesized? items = some (text, after)) :
    after <:+ items.tail ∧ text ≠ [] ∧ ∀ c ∈ text, isPlain c = true := by
  obtain ⟨inner, rfl, hspan, hne⟩ := eq_of_parenthesized? h
  have hsuffix := spanChars_suffix isPlain inner
  have hall := spanChars_forall isPlain inner
  rw [hspan] at hsuffix hall
  exact ⟨(List.suffix_cons _ _).trans hsuffix, hne, hall⟩

theorem optionalItem_makes :
    optionalItem.Makes fun i => i.WellFormed ∧ ∃ lead text trail, i = .optional lead text trail := by
  intro item rest made after h
  obtain ⟨lead, text, between, hmade, hcases⟩ := eq_of_optionalItem h
  obtain ⟨trail, heq, htrail, hafter⟩ := withTrail_spec lead text between
  rw [hmade] at heq hafter
  simp only at heq hafter
  have hbetween : between <:+ rest ∧ (text ≠ [] ∧ ∀ c ∈ text, isPlain c = true) ∧
      ∀ c ∈ lead, Unicode.isSpace c = true := by
    rcases hcases with ⟨c, rfl, rfl, hspace, hpar⟩ | ⟨rfl, hpar⟩
    · obtain ⟨hsuffix, htext⟩ := suffix_of_parenthesized? hpar
      exact ⟨hsuffix.trans (List.tail_suffix rest), htext, by simpa using hspace⟩
    · obtain ⟨hsuffix, htext⟩ := suffix_of_parenthesized? hpar
      exact ⟨hsuffix, htext, by simp⟩
  obtain ⟨hsuffix, ⟨hne, htext⟩, hlead⟩ := hbetween
  rw [heq]
  exact ⟨⟨⟨hne, htext, hlead, htrail⟩, lead, text, trail, rfl⟩, hafter.trans hsuffix⟩

theorem choiceItem_makes :
    choiceItem.Makes fun i => i.WellFormed ∧ ∃ left right, i = .choice left right := by
  intro item rest made after h
  obtain ⟨left, right, others, hleft, hright, hspan, hspan', rfl⟩ := eq_of_choiceItem h
  have hall := spanChars_forall Unicode.isWord (item :: rest)
  have hothers : (spanChars Unicode.isWord (item :: rest)).2 <:+ rest :=
    spanChars_suffix_of_ne_nil (by rw [hspan]; exact hleft)
  have hall' := spanChars_forall Unicode.isWord others
  have hafter := spanChars_suffix Unicode.isWord others
  rw [hspan] at hall hothers
  rw [hspan'] at hall' hafter
  exact ⟨⟨⟨⟨hleft, hall⟩, hright, hall'⟩, left, right, rfl⟩,
    hafter.trans ((List.suffix_cons _ _).trans hothers)⟩

theorem wellFormed_of_mem_items {pattern : List Char} : ∀ i ∈ items pattern, i.WellFormed := by
  have hchars : ∀ i ∈ pattern.map Item.char, i.WellFormed := by
    intro i hi
    obtain ⟨c, -, rfl⟩ := List.mem_map.mp hi
    trivial
  have hplaceholders : placeholderItem.Makes Item.WellFormed :=
    fun h => ⟨(placeholderItem_makes h).1.1, (placeholderItem_makes h).2⟩
  have hoptionals : optionalItem.Makes Item.WellFormed :=
    fun h => ⟨(optionalItem_makes h).1.1, (optionalItem_makes h).2⟩
  have hchoices : choiceItem.Makes Item.WellFormed :=
    fun h => ⟨(choiceItem_makes h).1.1, (choiceItem_makes h).2⟩
  exact hchoices.forall_takeAll (hoptionals.forall_takeAll (hplaceholders.forall_takeAll hchars))

/-! The names of placeholders. -/

theorem spanChars_append (p : Char → Bool) (items : List Item) :
    (spanChars p items).1.map .char ++ (spanChars p items).2 = items := by
  induction items with
  | nil => rfl
  | cons item rest ih =>
      cases item with
      | char c =>
          rw [spanChars]
          split
          · rw [List.map_cons, List.cons_append, ih]
          · rfl
      | placeholder name => rfl
      | optional lead text trail => rfl
      | choice left right => rfl

theorem spanChars_map_char (p : Char → Bool) (cs : List Char) :
    spanChars p (cs.map .char) = (cs.takeWhile p, (cs.dropWhile p).map .char) := by
  induction cs with
  | nil => rfl
  | cons c cs ih =>
      rw [List.map_cons, spanChars, ih, List.takeWhile_cons, List.dropWhile_cons]
      split <;> rfl

theorem filterMap_name?_map_char (cs : List Char) :
    (cs.map Item.char).filterMap Item.name? = [] := by
  rw [List.filterMap_map, List.filterMap_eq_nil_iff]
  exact fun c _ => rfl

theorem filterMap_name?_spanChars (p : Char → Bool) (items : List Item) :
    (spanChars p items).2.filterMap Item.name? = items.filterMap Item.name? := by
  conv => rhs; rw [← spanChars_append p items, List.filterMap_append, filterMap_name?_map_char]
  rfl

/-- Items that are made without names of what has no names leave the names as they are. -/
theorem filterMap_name?_takeAll {rule : ItemRule}
    (h : ∀ {item rest made after}, rule (item :: rest) = some (made, after) →
      made.name? = none ∧ after.filterMap Item.name? = (item :: rest).filterMap Item.name?)
    (items : List Item) :
    (rule.takeAll items).filterMap Item.name? = items.filterMap Item.name? := by
  fun_induction ItemRule.takeAll rule items with
  | case1 => rfl
  | case2 item rest hnone ih => rw [List.filterMap_cons, List.filterMap_cons, ih]
  | case3 item rest made after hsome hle ih =>
      obtain ⟨hmade, hafter⟩ := h hsome
      rw [List.filterMap_cons_none hmade, ih, hafter]
  | case4 item rest made after hsome hlt ih => rw [List.filterMap_cons, List.filterMap_cons, ih]

theorem filterMap_name?_parenthesized? {items : List Item} {text : List Char}
    (h : parenthesized? items = some (text, after)) :
    after.filterMap Item.name? = items.filterMap Item.name? := by
  obtain ⟨inner, rfl, hspan, -⟩ := eq_of_parenthesized? h
  have hnames := filterMap_name?_spanChars isPlain inner
  rw [hspan] at hnames
  exact hnames

theorem filterMap_name?_withTrail (lead : Option Char) (text : List Char) (items : List Item) :
    (withTrail lead text items).2.filterMap Item.name? = items.filterMap Item.name? := by
  unfold withTrail
  split
  · split <;> rfl
  · rfl

theorem filterMap_name?_optionalItem (h : optionalItem (item :: rest) = some (made, after)) :
    after.filterMap Item.name? = (item :: rest).filterMap Item.name? := by
  obtain ⟨lead, text, between, hmade, hcases⟩ := eq_of_optionalItem h
  have hnames := filterMap_name?_withTrail lead text between
  rw [hmade] at hnames
  rw [hnames]
  rcases hcases with ⟨c, rfl, rfl, hspace, hpar⟩ | ⟨rfl, hpar⟩
  · rw [filterMap_name?_parenthesized? hpar, List.filterMap_cons_none (by rfl)]
  · exact filterMap_name?_parenthesized? hpar

theorem filterMap_name?_choiceItem {items : List Item}
    (h : choiceItem items = some (made, after)) :
    after.filterMap Item.name? = items.filterMap Item.name? := by
  obtain ⟨left, right, others, -, -, hspan, hspan', -⟩ := eq_of_choiceItem h
  have hnames := filterMap_name?_spanChars Unicode.isWord items
  have hnames' := filterMap_name?_spanChars Unicode.isWord others
  rw [hspan] at hnames
  rw [hspan'] at hnames'
  rw [← hnames, hnames']
  rfl

theorem placeholderNames_append {front : List Char} (h : ':' ∉ front) (back : List Char) :
    placeholderNames (front ++ back) = placeholderNames back := by
  induction front with
  | nil => rfl
  | cons c front ih =>
      simp only [List.mem_cons, not_or] at h
      rw [List.cons_append, placeholderNames, if_neg (fun hc => h.1 hc.1.symm), ih h.2]

theorem placeholderItem_map_char (c : Char) (rest : List Char) :
    placeholderItem (.char c :: rest.map .char) =
      if c = ':' ∧ rest.takeWhile isNameCharacter ≠ [] then
        some (.placeholder (rest.takeWhile isNameCharacter),
          (rest.dropWhile isNameCharacter).map .char)
      else none := by
  by_cases hc : c = ':'
  · subst hc
    simp only [placeholderItem, spanChars_map_char, true_and]
    split
    · rename_i hnil
      rw [if_neg (fun hne => hne (Prod.mk.inj hnil).1)]
    · rename_i name after hne heq
      obtain ⟨rfl, rfl⟩ := Prod.mk.inj heq
      rw [if_pos (fun hnil => hne hnil)]
  · rw [if_neg (fun h => hc h.1)]
    unfold placeholderItem
    split
    · rename_i heq
      exact absurd (Item.char.inj (List.cons.inj heq).1) hc
    · rfl

theorem filterMap_name?_placeholders (pattern : List Char) :
    (placeholderItem.takeAll (pattern.map .char)).filterMap Item.name? =
      placeholderNames pattern := by
  induction hn : pattern.length using Nat.strongRecOn generalizing pattern with
  | ind n ih =>
      cases pattern with
      | nil => rw [List.map_nil, ItemRule.takeAll]; rfl
      | cons c rest =>
          subst hn
          rw [List.map_cons, ItemRule.takeAll, placeholderItem_map_char, placeholderNames]
          by_cases hc : c = ':' ∧ rest.takeWhile isNameCharacter ≠ []
          · have hlength : (rest.dropWhile isNameCharacter).length ≤ rest.length :=
              (List.dropWhile_suffix _).length_le
            have hcolon : ':' ∉ rest.takeWhile isNameCharacter := by
              intro hmem
              exact absurd (List.all_eq_true.mp List.all_takeWhile _ hmem) (by decide)
            have hnames : placeholderNames (rest.dropWhile isNameCharacter) =
                placeholderNames rest := by
              conv => rhs; rw [← List.takeWhile_append_dropWhile (p := isNameCharacter) (l := rest)]
              rw [placeholderNames_append hcolon]
            simp only [if_pos hc, List.length_map, hlength, ↓reduceIte]
            rw [List.filterMap_cons_some (by rfl), ih _ (Nat.lt_succ_of_le hlength) _ rfl, hnames]
          · simp only [if_neg hc]
            rw [List.filterMap_cons_none (by rfl), ih _ (Nat.lt_succ_self _) rest rfl]

/-- The placeholders of a pattern have the words behind its colons as their names. -/
theorem filterMap_name?_items (pattern : List Char) :
    (items pattern).filterMap Item.name? = placeholderNames pattern := by
  rw [items, filterMap_name?_takeAll, filterMap_name?_takeAll, filterMap_name?_placeholders]
  · intro item rest made after h
    obtain ⟨-, lead, text, trail, rfl⟩ := (optionalItem_makes h).1
    exact ⟨rfl, filterMap_name?_optionalItem h⟩
  · intro item rest made after h
    obtain ⟨-, left, right, rfl⟩ := (choiceItem_makes h).1
    exact ⟨rfl, filterMap_name?_choiceItem h⟩

theorem eq_placeholder_of_name? {item : Item} {name : List Char} (h : item.name? = some name) :
    item = .placeholder name := by
  cases item with
  | placeholder other => rw [Option.some.inj h]
  | char c => exact absurd h (by simp [Item.name?])
  | optional lead text trail => exact absurd h (by simp [Item.name?])
  | choice left right => exact absurd h (by simp [Item.name?])

/-! The text of items. -/

/-- An item as it is written in a pattern. -/
def Item.text : Item → List Char
  | .char c => [c]
  | .placeholder name => ':' :: name
  | .optional lead text trail => lead.toList ++ ('(' :: (text ++ ')' :: trail.toList))
  | .choice left right => left ++ '/' :: right

/-- Items that are made of others keep the text if they have the text of what they are made of. -/
theorem flatMap_text_takeAll {rule : ItemRule}
    (h : ∀ {item rest made after}, rule (item :: rest) = some (made, after) →
      made.text ++ after.flatMap Item.text = (item :: rest).flatMap Item.text)
    (items : List Item) : (rule.takeAll items).flatMap Item.text = items.flatMap Item.text := by
  fun_induction ItemRule.takeAll rule items with
  | case1 => rfl
  | case2 item rest hnone ih => rw [List.flatMap_cons, List.flatMap_cons, ih]
  | case3 item rest made after hsome hle ih => rw [List.flatMap_cons, ih, h hsome]
  | case4 item rest made after hsome hlt ih => rw [List.flatMap_cons, List.flatMap_cons, ih]

theorem flatMap_text_map_char (cs : List Char) : (cs.map Item.char).flatMap Item.text = cs := by
  induction cs with
  | nil => rfl
  | cons c cs ih => rw [List.map_cons, List.flatMap_cons, ih, Item.text, List.singleton_append]

theorem flatMap_text_spanChars (p : Char → Bool) (items : List Item) :
    (spanChars p items).1 ++ (spanChars p items).2.flatMap Item.text = items.flatMap Item.text := by
  conv => rhs; rw [← spanChars_append p items, List.flatMap_append, flatMap_text_map_char]

theorem text_placeholderItem (h : placeholderItem (item :: rest) = some (made, after)) :
    made.text ++ after.flatMap Item.text = (item :: rest).flatMap Item.text := by
  obtain ⟨name, rfl, hspan, -, rfl⟩ := eq_of_placeholderItem h
  have htext := flatMap_text_spanChars isNameCharacter rest
  rw [hspan] at htext
  rw [List.flatMap_cons, ← htext]
  rfl

theorem text_parenthesized? {items : List Item} {text : List Char}
    (h : parenthesized? items = some (text, after)) :
    '(' :: (text ++ ')' :: after.flatMap Item.text) = items.flatMap Item.text := by
  obtain ⟨inner, rfl, hspan, -⟩ := eq_of_parenthesized? h
  have htext := flatMap_text_spanChars isPlain inner
  rw [hspan, List.flatMap_cons] at htext
  rw [List.flatMap_cons, ← htext]
  rfl

theorem text_withTrail (lead : Option Char) (text : List Char) (items : List Item) :
    (withTrail lead text items).1.text ++ (withTrail lead text items).2.flatMap Item.text =
      lead.toList ++ '(' :: (text ++ ')' :: items.flatMap Item.text) := by
  unfold withTrail
  split
  · split
    · simp [Item.text]
    · simp [Item.text]
  · simp [Item.text]

theorem text_optionalItem (h : optionalItem (item :: rest) = some (made, after)) :
    made.text ++ after.flatMap Item.text = (item :: rest).flatMap Item.text := by
  obtain ⟨lead, text, between, hmade, hcases⟩ := eq_of_optionalItem h
  have htext := text_withTrail lead text between
  rw [hmade] at htext
  rw [htext]
  rcases hcases with ⟨c, rfl, rfl, -, hpar⟩ | ⟨rfl, hpar⟩
  · rw [text_parenthesized? hpar, List.flatMap_cons]
    rfl
  · exact text_parenthesized? hpar

theorem text_choiceItem {items : List Item} (h : choiceItem items = some (made, after)) :
    made.text ++ after.flatMap Item.text = items.flatMap Item.text := by
  obtain ⟨left, right, others, -, -, hspan, hspan', rfl⟩ := eq_of_choiceItem h
  have htext := flatMap_text_spanChars Unicode.isWord items
  have htext' := flatMap_text_spanChars Unicode.isWord others
  rw [hspan, List.flatMap_cons] at htext
  rw [hspan'] at htext'
  rw [← htext, ← htext', Item.text, Item.text, List.append_assoc]
  rfl

/-- The items of a pattern make it up. -/
theorem flatMap_text_items (pattern : List Char) : (items pattern).flatMap Item.text = pattern := by
  rw [items, flatMap_text_takeAll text_choiceItem, flatMap_text_takeAll text_optionalItem,
    flatMap_text_takeAll text_placeholderItem, flatMap_text_map_char]

end Stepwise.Turnip
