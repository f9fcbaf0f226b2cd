import Stepwise.Proofs.Pattern.Edits
import Stepwise.Proofs.Turnip.Passes

/-!
# What placeholders put in

The pass for placeholders puts in groups, and the passes behind it do not touch them: they treat
the text between two placeholders as if it stood alone, and they start and stop between the pairs
of a text. Main statement: the groups of each placeholder stand in the regular expression as they
were put in, once, and in the order of the placeholders.
-/

namespace Stepwise.Turnip

/-- A pattern that is divided at its placeholders. -/
inductive Division
  | last (text : List Char)
  | before (text name : List Char) (behind : Division)

namespace Division

variable {β γ : Type}

/-- A row in which something stands for each text and for each name. -/
def row (ofText ofName : List Char → List β) : Division → List β
  | last text => ofText text
  | before text name behind => ofText text ++ (ofName name ++ behind.row ofText ofName)

/-- Puts a character in front of the first text. -/
def push (c : Char) : Division → Division
  | last text => last (c :: text)
  | before text name behind => before (c :: text) name behind

/-- What respects joining is done to each part of a row. -/
theorem row_map {f : List β → List γ} (hf : ∀ a b, f (a ++ b) = f a ++ f b)
    (ofText ofName : List Char → List β) (division : Division) :
    f (division.row ofText ofName) =
      division.row (fun text => f (ofText text)) fun name => f (ofName name) := by
  induction division with
  | last text => rfl
  | before text name behind ih => rw [row, hf, hf, ih, row]

theorem row_push {ofText ofName : List Char → List β} {c : Char} {cs : List β}
    (h : ∀ text, ofText (c :: text) = cs ++ ofText text) (division : Division) :
    (division.push c).row ofText ofName = cs ++ division.row ofText ofName := by
  cases division with
  | last text => exact h text
  | before text name behind => rw [push, row, h, List.append_assoc, row]

end Division

/-- Divides a pattern at its placeholders. -/
def divide : List Char → Division
  | [] => .last []
  | c :: rest =>
      if c = ':' ∧ rest.takeWhile isNameCharacter ≠ [] then
        .before [] (rest.takeWhile isNameCharacter) (divide (rest.dropWhile isNameCharacter))
      else (divide rest).push c
termination_by pattern => pattern.length
decreasing_by
  · exact Nat.lt_succ_of_le (List.dropWhile_suffix _).length_le
  · exact Nat.lt_succ_self _

/-- The pass for placeholders finds the places at which a pattern is divided. -/
theorem takeAll_placeholder_eq_row (pattern : List Char) :
    placeholderItem.takeAll (pattern.map .char) =
      (divide pattern).row (List.map Item.char) fun name => [.placeholder name] := by
  fun_induction divide pattern with
  | case1 => rw [List.map_nil, ItemRule.takeAll]; rfl
  | case2 c rest hc ih =>
      have hlength : (rest.dropWhile isNameCharacter).length ≤ rest.length :=
        (List.dropWhile_suffix _).length_le
      rw [List.map_cons, ItemRule.takeAll, placeholderItem_map_char, if_pos hc]
      simp only [List.length_map, hlength, ↓reduceIte]
      rw [ih]
      rfl
  | case3 c rest hc ih =>
      rw [List.map_cons, ItemRule.takeAll, placeholderItem_map_char, if_neg hc]
      simp only
      have hpush : ∀ text, (c :: text).map Item.char = [.char c] ++ text.map Item.char :=
        fun text => rfl
      rw [ih, Division.row_push hpush]
      rfl

/-! Rules on items do not look across a placeholder. -/

variable {name : List Char} {rest : List Item}

theorem spanChars_append_placeholder (p : Char → Bool) (items : List Item) :
    spanChars p (items ++ .placeholder name :: rest) =
      ((spanChars p items).1, (spanChars p items).2 ++ .placeholder name :: rest) := by
  induction items with
  | nil => rfl
  | cons item items ih =>
      cases item with
      | char c =>
          rw [List.cons_append, spanChars, spanChars, ih]
          split <;> rfl
      | placeholder other => rfl
      | optional lead text trail => rfl
      | choice left right => rfl

theorem parenthesized?_append_placeholder (items : List Item) :
    parenthesized? (items ++ .placeholder name :: rest) =
      (parenthesized? items).map fun (text, after) =>
        (text, after ++ .placeholder name :: rest) := by
  by_cases hopen : ∃ inner, items = .char '(' :: inner
  · obtain ⟨inner, rfl⟩ := hopen
    simp only [List.cons_append, parenthesized?, spanChars_append_placeholder]
    generalize spanChars isPlain inner = span
    obtain ⟨text, after⟩ := span
    cases text with
    | nil => simp
    | cons first text =>
        rcases eq_or_ne after.head? (some (.char ')')) with hclose | hclose
        · obtain ⟨behind, rfl⟩ := List.head?_eq_some_iff.mp hclose
          rfl
        · cases after with
          | nil => rfl
          | cons item after =>
              have hitem : item ≠ .char ')' := fun heq => hclose (congrArg some heq)
              simp [hitem]
  · have hnone : ∀ row, (¬∃ inner, row = .char '(' :: inner) → parenthesized? row = none :=
      fun row hrow => (takeParenthesized?_of_not_open hrow).2
    rw [hnone items hopen, hnone _ ?_]
    · rfl
    · rintro ⟨inner, heq⟩
      cases items with
      | nil => exact absurd heq (by simp)
      | cons item items => exact hopen ⟨items, by rw [(List.cons.inj heq).1]⟩

theorem withTrail_append_placeholder (lead : Option Char) (text : List Char) (items : List Item) :
    withTrail lead text (items ++ .placeholder name :: rest) =
      ((withTrail lead text items).1,
        (withTrail lead text items).2 ++ .placeholder name :: rest) := by
  cases items with
  | nil => rfl
  | cons item items =>
      cases item with
      | char c =>
          rw [List.cons_append, withTrail, withTrail]
          split <;> rfl
      | placeholder other => rfl
      | optional lead text trail => rfl
      | choice left right => rfl

theorem optionalItem_append_placeholder (items : List Item) :
    optionalItem (items ++ .placeholder name :: rest) =
      (optionalItem items).map fun (made, after) => (made, after ++ .placeholder name :: rest) := by
  have htrail : ∀ lead row, ((parenthesized? row).map fun (text, after) =>
        (text, after ++ .placeholder name :: rest)).map (fun (text, after) =>
          withTrail lead text after) =
      ((parenthesized? row).map fun (text, after) => withTrail lead text after).map
        fun (made, after) => (made, after ++ .placeholder name :: rest) := by
    intro lead row
    rw [Option.map_map, Option.map_map]
    congr 1
    funext found
    exact withTrail_append_placeholder lead found.1 found.2
  cases items with
  | nil => rfl
  | cons item items =>
      cases item with
      | char c =>
          rw [List.cons_append, optionalItem, optionalItem, ← List.cons_append,
            parenthesized?_append_placeholder, parenthesized?_append_placeholder]
          split
          · exact htrail _ _
          · exact htrail _ _
      | placeholder other => rfl
      | optional lead text trail => rfl
      | choice left right => rfl

theorem choiceItem_append_placeholder (items : List Item) :
    choiceItem (items ++ .placeholder name :: rest) =
      (choiceItem items).map fun (made, after) => (made, after ++ .placeholder name :: rest) := by
  unfold choiceItem
  rw [spanChars_append_placeholder]
  generalize spanChars Unicode.isWord items = span
  obtain ⟨left, after⟩ := span
  cases left with
  | nil => simp
  | cons first left =>
      rcases eq_or_ne after.head? (some (.char '/')) with hslash | hslash
      · obtain ⟨others, rfl⟩ := List.head?_eq_some_iff.mp hslash
        simp only [List.cons_append, spanChars_append_placeholder]
        generalize spanChars Unicode.isWord others = span
        obtain ⟨right, behind⟩ := span
        cases right with
        | nil => rfl
        | cons c right => rfl
      · cases after with
        | nil => rfl
        | cons item after =>
            have hitem : item ≠ .char '/' := fun heq => hslash (congrArg some heq)
            simp [hitem]

/-- A rule that does not look across a placeholder. -/
structure StopsAtPlaceholders (rule : ItemRule) : Prop where
  goesOn : GoesOn rule
  stops : ∀ name rest items, rule (items ++ .placeholder name :: rest) =
    (rule items).map fun (made, after) => (made, after ++ .placeholder name :: rest)
  nil : rule [] = none

theorem stopsAtPlaceholders_optional : StopsAtPlaceholders optionalItem where
  goesOn h := (optionalItem_makes h).2
  stops _ _ := optionalItem_append_placeholder
  nil := rfl

theorem stopsAtPlaceholders_choice : StopsAtPlaceholders choiceItem where
  goesOn h := (choiceItem_makes h).2
  stops _ _ := choiceItem_append_placeholder
  nil := rfl

/-- The edits of such a rule are those of the texts between the placeholders. -/
theorem StopsAtPlaceholders.edits_row {rule : ItemRule} (h : StopsAtPlaceholders rule)
    (ofText : List Char → List Item) (division : Division) :
    edits rule (division.row ofText fun name => [.placeholder name]) =
      division.row (fun text => edits rule (ofText text)) fun name =>
        [.kept (.placeholder name)] := by
  induction division with
  | last text => rfl
  | before text name behind ih =>
      have hplaceholder : ∀ rest : List Item, edits rule (.placeholder name :: rest) =
          .kept (.placeholder name) :: edits rule rest := by
        intro rest
        have hnone := h.stops name rest []
        rw [h.nil, List.nil_append] at hnone
        exact edits_of_none hnone
      rw [Division.row, Division.row, List.singleton_append,
        edits_append_of_local h.goesOn (fun items _ => h.stops name _ items), hplaceholder, ih]
      rfl

/-! Edits of items and of their text. -/

/-- What is there behind an edit of items. -/
def madeItem : Edit Item Item → Item
  | .kept item => item
  | .replaced _ made => made

/-- An edit of items in their text. -/
def quotedEdit : Edit Item Item → List (Edit Char (List Char))
  | .kept item => item.quoted.map .kept
  | .replaced taken made => [.replaced (quotedAll taken) made.quoted]

theorem takeAll_eq_map_edits (rule : ItemRule) (items : List Item) :
    rule.takeAll items = (edits rule items).map madeItem := by
  fun_induction edits rule items with
  | case1 => rw [ItemRule.takeAll]; rfl
  | case2 item rest hnone ih =>
      rw [ItemRule.takeAll, hnone]
      simp only
      rw [ih]
      rfl
  | case3 item rest made after hsome hle ih =>
      rw [ItemRule.takeAll, hsome]
      simp only [hle, ↓reduceIte]
      rw [ih]
      rfl
  | case4 item rest made after hsome hlt ih =>
      rw [ItemRule.takeAll, hsome]
      simp only [hlt, ↓reduceIte]
      rw [ih]
      rfl

/-- A pass over the text of items edits it as the items are edited. -/
theorem Simulates.edits {rule : ReplacementRule} {itemRule : ItemRule} {P : Item → Prop}
    (h : Simulates rule itemRule P) (hgoes : GoesOn itemRule) {items : List Item}
    (hitems : ∀ i ∈ items, P i) :
    edits rule (quotedAll items) = (edits itemRule items).flatMap quotedEdit := by
  induction items using edits_induction hgoes with
  | nil => rw [quotedAll, List.flatMap_nil, edits_nil, edits_nil, List.flatMap_nil]
  | kept item rest hnone ih =>
      have hrest : ∀ i ∈ rest, P i := fun i hi => hitems i (List.mem_cons_of_mem item hi)
      rw [edits_of_none hnone, quotedAll_cons, List.flatMap_cons, ← ih hrest]
      apply edits_append
      intro s hs hne
      by_cases heq : s = item.quoted
      · rw [heq, h.atItem item rest hitems, hnone]
        rfl
      · exact h.inside item rest s hitems hs hne heq
  | replaced item front made after hsome ih =>
      have hafter : ∀ i ∈ after, P i := fun i hi =>
        hitems i (List.mem_cons_of_mem item (List.mem_append_right front hi))
      have hfirst := h.atItem item (front ++ after) hitems
      have hquoted : quotedAll (item :: (front ++ after)) =
          quotedAll (item :: front) ++ quotedAll after := by
        rw [← List.cons_append, quotedAll, quotedAll, quotedAll, List.flatMap_append]
      obtain ⟨c, cs, htaken⟩ : ∃ c cs, quotedAll (item :: front) = c :: cs := by
        apply List.exists_cons_of_ne_nil
        rw [quotedAll_cons]
        exact List.append_ne_nil_of_left_ne_nil (quoted_ne_nil item) _
      rw [hsome, ← quotedAll_cons, hquoted, htaken] at hfirst
      rw [edits_of_some hsome, List.flatMap_cons, ← ih hafter, hquoted, htaken, List.cons_append,
        edits_of_some hfirst, quotedEdit, htaken]
      rfl

/-- A pass over items treats the texts between the placeholders on their own. -/
theorem StopsAtPlaceholders.takeAll_row {rule : ItemRule} (h : StopsAtPlaceholders rule)
    (ofText : List Char → List Item) (division : Division) :
    rule.takeAll (division.row ofText fun name => [.placeholder name]) =
      division.row (fun text => rule.takeAll (ofText text)) fun name => [.placeholder name] := by
  rw [takeAll_eq_map_edits, h.edits_row, Division.row_map fun a b => List.map_append]
  simp only [← takeAll_eq_map_edits]
  rfl

/-! Pairs. -/

theorem Made.paired {text : List Char} (h : Made text) : Paired text := by
  induction h with
  | nil => exact .nil
  | char hc _ ih => exact .single hc ih
  | escape _ _ ih => exact .pair ih

theorem paired_quoted {item : Item} (h : item.WellFormed) : Paired item.quoted := by
  by_cases hchar : ∃ c, item = .char c
  · obtain ⟨c, rfl⟩ := hchar
    cases hc : isPlain c with
    | true =>
        rw [quoted_of_isPlain hc]
        refine .single ?_ .nil
        rintro rfl
        exact absurd hc (by decide)
    | false =>
        rw [quoted_of_not_isPlain hc]
        exact .pair .nil
  · exact (made_quoted h fun c hc => hchar ⟨c, hc⟩).paired

theorem paired_quotedAll {items : List Item} (h : ∀ i ∈ items, i.WellFormed) :
    Paired (quotedAll items) := by
  induction items with
  | nil => exact .nil
  | cons item rest ih =>
      rw [quotedAll_cons]
      exact (paired_quoted (h item List.mem_cons_self)).append
        (ih fun i hi => h i (List.mem_cons_of_mem item hi))

theorem atPairs_flatMap_quotedEdit {es : List (Edit Item Item)}
    (h : ∀ e ∈ es, ∀ i ∈ e.taken, i.WellFormed) : AtPairs (es.flatMap quotedEdit) := by
  induction es with
  | nil => exact atPairs_nil
  | cons e es ih =>
      obtain ⟨he, hes⟩ := List.forall_mem_cons.mp h
      rw [List.flatMap_cons]
      cases e with
      | kept item => exact (ih hes).keep (paired_quoted (he item List.mem_cons_self))
      | replaced taken made => exact (ih hes).replace (paired_quotedAll he)

theorem flatMap_taken_quotedEdit (es : List (Edit Item Item)) :
    (es.flatMap quotedEdit).flatMap Edit.taken = quotedAll (es.flatMap Edit.taken) := by
  induction es with
  | nil => rfl
  | cons e es ih =>
      rw [List.flatMap_cons, List.flatMap_append, ih, List.flatMap_cons, quotedAll, quotedAll,
        List.flatMap_append]
      congr 1
      cases e with
      | kept item => rw [quotedEdit, flatMap_taken_kept, Edit.taken, List.flatMap_singleton]
      | replaced taken made =>
          rw [quotedEdit, List.flatMap_singleton, Edit.taken, Edit.taken, quotedAll]

/-- A pass over the text of items starts and stops between pairs. -/
theorem Simulates.editsPairs {rule : ReplacementRule} {itemRule : ItemRule} {P : Item → Prop}
    (h : Simulates rule itemRule P) (hgoes : GoesOn itemRule) {items : List Item}
    (hitems : ∀ i ∈ items, P i) (hwell : ∀ i ∈ items, i.WellFormed) :
    EditsPairs rule (quotedAll items) where
  taken := by
    rw [h.edits hgoes hitems, flatMap_taken_quotedEdit, flatMap_taken_edits hgoes]
  put := flatMap_put_edits rule _
  atPairs := by
    rw [h.edits hgoes hitems]
    apply atPairs_flatMap_quotedEdit
    intro e he i hi
    apply hwell
    rw [← flatMap_taken_edits hgoes items]
    exact List.mem_flatMap.mpr ⟨e, he, hi⟩

/-! The passes, one after another. -/

/-- The text of a pattern in which the groups of the placeholders were put in. -/
def grouped (pattern : List Char) : List Char :=
  placeholderRule.replaceAll (quote pattern)

/-- The text of a pattern in which optional parts were replaced, too. -/
def withOptionals (pattern : List Char) : List Char :=
  optionalRule.replaceAll (grouped pattern)

/-- The text of a pattern in which choices were replaced, too. -/
def withChoices (pattern : List Char) : List Char :=
  choiceRule.replaceAll (withOptionals pattern)

theorem toRegex_eq_withChoices (pattern : List Char) :
    toRegex pattern = '^' :: unescape inertCharacters (withChoices pattern) ++ ['$'] :=
  rfl

/-- The items of a pattern after the pass for placeholders. -/
def earlyItems (pattern : List Char) : List Item :=
  placeholderItem.takeAll (pattern.map .char)

theorem isEarly_of_mem_earlyItems {pattern : List Char} : ∀ i ∈ earlyItems pattern, i.IsEarly :=
  isEarly_of_mem_takeAll isChar_of_mem_map

theorem isEarly_of_mem_map {text : List Char} : ∀ i ∈ text.map Item.char, i.IsEarly :=
  fun i hi => Or.inl (isChar_of_mem_map i hi)

theorem Item.IsEarly.wellFormed {item : Item} (h : item.IsEarly) : item.WellFormed := by
  rcases h with ⟨c, rfl⟩ | ⟨name, rfl, hwell⟩
  · trivial
  · exact hwell

theorem Item.IsLate.wellFormed {item : Item} (h : item.IsLate) : item.WellFormed := by
  rcases h with ⟨c, rfl⟩ | ⟨-, hwell⟩
  · trivial
  · exact hwell

theorem wellFormed_of_mem_takeAll {items : List Item} (h : ∀ i ∈ items, i.IsLate) :
    ∀ i ∈ choiceItem.takeAll items, i.WellFormed := by
  have hmakes : choiceItem.Makes Item.WellFormed :=
    fun hsome => ⟨(choiceItem_makes hsome).1.1, (choiceItem_makes hsome).2⟩
  exact hmakes.forall_takeAll fun i hi => (h i hi).wellFormed

theorem grouped_eq_quotedAll (pattern : List Char) :
    grouped pattern = quotedAll (earlyItems pattern) := by
  rw [grouped, quote_eq_quotedAll,
    simulates_placeholder.replaceAll placeholderItem_makes isChar_of_mem_map, earlyItems]

theorem withOptionals_eq_quotedAll (pattern : List Char) :
    withOptionals pattern = quotedAll (optionalItem.takeAll (earlyItems pattern)) := by
  rw [withOptionals, grouped_eq_quotedAll,
    simulates_optional.replaceAll optionalItem_makes isEarly_of_mem_earlyItems]

theorem withChoices_eq_quotedAll (pattern : List Char) :
    withChoices pattern = quotedAll (items pattern) := by
  rw [withChoices, withOptionals_eq_quotedAll, simulates_choice.replaceAll choiceItem_makes
    (isLate_of_mem_takeAll isEarly_of_mem_earlyItems)]
  rfl

theorem grouped_eq_row (pattern : List Char) :
    grouped pattern = (divide pattern).row quote placeholderGroups := by
  rw [grouped_eq_quotedAll, earlyItems, takeAll_placeholder_eq_row, quotedAll,
    Division.row_map fun a b => List.flatMap_append]
  have htext : ∀ text, (text.map Item.char).flatMap Item.quoted = quote text :=
    fun text => (quote_eq_quotedAll text).symm
  simp only [htext, List.flatMap_singleton]
  rfl

/-- The pass for optional parts keeps the groups and edits the texts between them on their
own. -/
theorem edits_grouped (pattern : List Char) :
    edits optionalRule (grouped pattern) =
      (divide pattern).row (fun text => edits optionalRule (quote text))
        fun name => (placeholderGroups name).map .kept := by
  have htext : ∀ text, (edits optionalItem (text.map .char)).flatMap quotedEdit =
      edits optionalRule (quote text) := by
    intro text
    rw [quote_eq_quotedAll,
      simulates_optional.edits stopsAtPlaceholders_optional.goesOn isEarly_of_mem_map]
  rw [grouped_eq_quotedAll, simulates_optional.edits stopsAtPlaceholders_optional.goesOn
    isEarly_of_mem_earlyItems, earlyItems, takeAll_placeholder_eq_row,
    stopsAtPlaceholders_optional.edits_row, Division.row_map fun a b => List.flatMap_append]
  simp only [htext, List.flatMap_singleton]
  rfl

-- groups that stand behind a quoted backslash look like a quoted parenthesis
example : (placeholderGroups ['n']).head? = some '(' ∧
    optionalRule ('\\' :: placeholderGroups ['n']) = none := by
  decide

/-- The pass for choices does so, too. -/
theorem edits_withOptionals (pattern : List Char) :
    edits choiceRule (withOptionals pattern) =
      (divide pattern).row (fun text => edits choiceRule (optionalRule.replaceAll (quote text)))
        fun name => (placeholderGroups name).map .kept := by
  have htext : ∀ text,
      (edits choiceItem (optionalItem.takeAll (text.map .char))).flatMap quotedEdit =
        edits choiceRule (optionalRule.replaceAll (quote text)) := by
    intro text
    rw [quote_eq_quotedAll, simulates_optional.replaceAll optionalItem_makes isEarly_of_mem_map,
      simulates_choice.edits stopsAtPlaceholders_choice.goesOn
        (isLate_of_mem_takeAll isEarly_of_mem_map)]
  rw [withOptionals_eq_quotedAll, simulates_choice.edits stopsAtPlaceholders_choice.goesOn
    (isLate_of_mem_takeAll isEarly_of_mem_earlyItems), earlyItems, takeAll_placeholder_eq_row,
    stopsAtPlaceholders_optional.takeAll_row, stopsAtPlaceholders_choice.edits_row,
    Division.row_map fun a b => List.flatMap_append]
  simp only [htext, List.flatMap_singleton]
  rfl

/-- In the end the groups stand between the texts, each of which went through the passes on its
own. -/
theorem unescape_withChoices (pattern : List Char) :
    unescape inertCharacters (withChoices pattern) =
      (divide pattern).row (fun text => unescape inertCharacters
        (choiceRule.replaceAll (optionalRule.replaceAll (quote text)))) placeholderGroups := by
  have htext : ∀ text,
      (choiceItem.takeAll (optionalItem.takeAll (text.map .char))).flatMap Item.source =
        unescape inertCharacters
          (choiceRule.replaceAll (optionalRule.replaceAll (quote text))) := by
    intro text
    have hlate : ∀ i ∈ optionalItem.takeAll (text.map .char), i.IsLate :=
      isLate_of_mem_takeAll isEarly_of_mem_map
    rw [quote_eq_quotedAll, simulates_optional.replaceAll optionalItem_makes isEarly_of_mem_map,
      simulates_choice.replaceAll choiceItem_makes hlate,
      unescape_quotedAll (wellFormed_of_mem_takeAll hlate)]
  rw [withChoices_eq_quotedAll, unescape_quotedAll wellFormed_of_mem_items, items,
    takeAll_placeholder_eq_row, stopsAtPlaceholders_optional.takeAll_row,
    stopsAtPlaceholders_choice.takeAll_row, Division.row_map fun a b => List.flatMap_append]
  simp only [htext, List.flatMap_singleton]
  rfl

/-! Groups in a regular expression. -/

/-- The name of the placeholder whose groups a text begins with. -/
def leadingName? (text : List Char) : Option (List Char) :=
  if placeholderGroups ((text.drop 8).takeWhile isNameCharacter) <+: text then
    some ((text.drop 8).takeWhile isNameCharacter)
  else none

/-- The names of the placeholders whose groups begin anywhere in a text. -/
def groupedNames : List Char → List (List Char)
  | [] => []
  | c :: rest => (leadingName? (c :: rest)).toList ++ groupedNames rest

theorem leadingName?_eq_none {text : List Char} (h : ¬['(', '?', ':', '"', '('] <+: text) :
    leadingName? text = none := by
  rw [leadingName?, if_neg]
  intro hprefix
  rw [placeholderGroups_eq] at hprefix
  exact h (List.IsPrefix.trans ⟨_, rfl⟩ hprefix)

theorem leadingName?_placeholderGroups {name : List Char}
    (h : ∀ c ∈ name, isNameCharacter c = true) (back : List Char) :
    leadingName? (placeholderGroups name ++ back) = some name := by
  have hname : ((placeholderGroups name ++ back).drop 8).takeWhile isNameCharacter = name := by
    obtain ⟨behind, hgroups⟩ : ∃ behind, placeholderGroups name ++ back =
        ['(', '?', ':', '"', '(', '?', 'P', '<'] ++ (name ++ '>' :: behind) := by
      rw [placeholderGroups_eq]
      simp
    rw [hgroups]
    change (name ++ '>' :: behind).takeWhile isNameCharacter = name
    exact (span_append '>' behind h (by decide)).1
  rw [leadingName?, hname, if_pos (List.prefix_append _ _)]

theorem groupedNames_cons {c : Char} (hc : c ≠ '(') (rest : List Char) :
    groupedNames (c :: rest) = groupedNames rest := by
  rw [groupedNames, leadingName?_eq_none, Option.toList_none, List.nil_append]
  intro hprefix
  exact hc (List.cons_prefix_cons.mp hprefix).1.symm

theorem groupedNames_append {front : List Char} (h : '(' ∉ front) (back : List Char) :
    groupedNames (front ++ back) = groupedNames back := by
  induction front with
  | nil => rfl
  | cons c front ih =>
      rw [List.mem_cons, not_or] at h
      rw [List.cons_append, groupedNames_cons (Ne.symm h.1), ih h.2]

/-- A group that is named begins no groups of a placeholder. -/
theorem groupedNames_named (rest : List Char) :
    groupedNames ('(' :: '?' :: 'P' :: rest) = groupedNames rest := by
  rw [groupedNames, leadingName?_eq_none, Option.toList_none, List.nil_append,
    groupedNames_cons (by decide), groupedNames_cons (by decide)]
  simp

/-- Nor does a group with text that has no groups itself. -/
theorem groupedNames_group {body : List Char} (h : '(' ∉ body) (back : List Char) :
    groupedNames ('(' :: '?' :: ':' :: (body ++ ')' :: back)) = groupedNames back := by
  have hopening : ¬['(', '?', ':', '"', '('] <+: '(' :: '?' :: ':' :: (body ++ ')' :: back) := by
    intro hprefix
    have hbody : ['"', '('] <+: body ++ ')' :: back := by simpa using hprefix
    cases body with
    | nil => exact absurd (List.cons_prefix_cons.mp hbody).1 (by decide)
    | cons c body =>
        have hbehind := (List.cons_prefix_cons.mp hbody).2
        cases body with
        | nil => exact absurd (List.cons_prefix_cons.mp hbehind).1 (by decide)
        | cons d body =>
            rw [← (List.cons_prefix_cons.mp hbehind).1] at h
            exact h (by simp)
  rw [groupedNames, leadingName?_eq_none hopening, Option.toList_none, List.nil_append,
    groupedNames_cons (by decide), groupedNames_cons (by decide), groupedNames_append h,
    groupedNames_cons (by decide)]

/-- The groups of a placeholder are found once. -/
theorem groupedNames_placeholderGroups {name : List Char}
    (h : ∀ c ∈ name, isNameCharacter c = true) (back : List Char) :
    groupedNames (placeholderGroups name ++ back) = name :: groupedNames back := by
  have hname : '(' ∉ name := fun hmem => absurd (h _ hmem) (by decide)
  have hgroups : placeholderGroups name ++ back = '(' :: (['?', ':', '"'] ++
      '(' :: '?' :: 'P' :: ('<' :: (name ++ ['>', '[', '^', '"', ']', '+', ')', '"', '|', '\'']) ++
      '(' :: '?' :: 'P' :: ('<' :: (name ++ ['.', 's', 'i', 'n', 'g', 'l', 'e', '>', '[', '^', '\'',
        ']', '+', ')', '\'', '|', '\\', 'b']) ++
      '(' :: '?' :: 'P' :: ('<' :: (name ++ ['.', 'b', 'a', 'r', 'e', '>', '\\', 'w', '+', ')',
        '\\', 'b', ')']) ++ back)))) := by
    rw [placeholderGroups_eq]
    simp
  have hleading := leadingName?_placeholderGroups h back
  rw [hgroups] at hleading ⊢
  rw [groupedNames, hleading, groupedNames_append (by decide), groupedNames_named,
    groupedNames_append (by simp [hname]), groupedNames_named,
    groupedNames_append (by simp [hname]), groupedNames_named,
    groupedNames_append (by simp [hname])]
  rfl

theorem not_mem_of_isPlain {text : List Char} (h : ∀ c ∈ text, isPlain c = true) : '(' ∉ text :=
  fun hmem => absurd (h _ hmem) (by decide)

theorem groupedNames_maybe {text : List Char} (h : ∀ c ∈ text, isPlain c = true)
    (back : List Char) : groupedNames (maybe text ++ back) = groupedNames back := by
  have hmaybe : maybe text ++ back = '(' :: '?' :: ':' :: (text ++ ')' :: '?' :: back) := by
    simp [maybe]
  rw [hmaybe, groupedNames_group (not_mem_of_isPlain h), groupedNames_cons (by decide)]

theorem groupedNames_maybeSpace {lead : Option Char} (h : ∀ c ∈ lead, Unicode.isSpace c = true)
    (back : List Char) : groupedNames (maybeSpace lead ++ back) = groupedNames back := by
  cases lead with
  | none => rfl
  | some c => exact groupedNames_maybe (by simpa using isPlain_of_isSpace (h c rfl)) back

/-- What stands in front of the regular expression of a row is no question mark. -/
theorem head?_flatMap_source (items : List Item) :
    (items.flatMap Item.source ++ ['$']).head? ≠ some '?' := by
  cases items with
  | nil => simp
  | cons item rest =>
      rw [List.flatMap_cons, List.append_assoc]
      by_cases hchar : ∃ c, item = .char c
      · obtain ⟨c, rfl⟩ := hchar
        rw [Item.source]
        split
        · simp
        · rename_i hc
          have hne : c ≠ '?' := by
            rintro rfl
            exact hc (by decide)
          simpa using hne
      · have hne : ∀ c, item ≠ .char c := fun c hc => hchar ⟨c, hc⟩
        rcases quoted_cases item with ⟨c, rfl, -⟩ | ⟨c, rfl, -⟩ | ⟨-, s, hquoted⟩
        · exact absurd rfl (hne c)
        · exact absurd rfl (hne c)
        · rw [source_of_ne_char hne, hquoted]
          simp

theorem groupedNames_char (c : Char) {back : List Char} (hback : back.head? ≠ some '?') :
    groupedNames ((Item.char c).source ++ back) = groupedNames back := by
  rw [Item.source]
  split
  · rw [List.cons_append, groupedNames_cons (by decide), List.singleton_append, groupedNames,
      leadingName?_eq_none, Option.toList_none, List.nil_append]
    intro hprefix
    obtain ⟨others, hback'⟩ := (List.cons_prefix_cons.mp hprefix).2
    rw [← hback'] at hback
    exact hback rfl
  · rename_i hc
    apply groupedNames_cons
    rintro rfl
    exact hc (by decide)

/-- The groups in a regular expression are those of its placeholders. -/
theorem groupedNames_flatMap_source {items : List Item} (h : ∀ i ∈ items, i.WellFormed) :
    groupedNames (items.flatMap Item.source ++ ['$']) = items.filterMap Item.name? := by
  induction items with
  | nil => rw [List.flatMap_nil, List.nil_append, groupedNames_cons (by decide)]; rfl
  | cons item rest ih =>
      obtain ⟨hitem, hrest⟩ := List.forall_mem_cons.mp h
      rw [List.flatMap_cons, List.append_assoc]
      cases item with
      | char c =>
          rw [List.filterMap_cons_none (by rfl), ← ih hrest]
          exact groupedNames_char c (head?_flatMap_source rest)
      | placeholder name =>
          rw [List.filterMap_cons_some (by rfl), ← ih hrest]
          exact groupedNames_placeholderGroups hitem.2 _
      | optional lead text trail =>
          rw [List.filterMap_cons_none (by rfl), ← ih hrest, source_of_ne_char (by simp),
            Item.quoted, List.append_assoc, List.append_assoc, groupedNames_maybeSpace hitem.2.2.1,
            groupedNames_maybe hitem.2.1, groupedNames_maybeSpace hitem.2.2.2]
      | choice left right =>
          have hbody : '(' ∉ left ++ '|' :: right := by
            have hleft := not_mem_of_isPlain fun c hc => isPlain_of_isWord (hitem.1.2 c hc)
            have hright := not_mem_of_isPlain fun c hc => isPlain_of_isWord (hitem.2.2 c hc)
            simp [hleft, hright]
          have hsource : (Item.choice left right).source ++ (rest.flatMap Item.source ++ ['$']) =
              '(' :: '?' :: ':' :: ((left ++ '|' :: right) ++
                ')' :: (rest.flatMap Item.source ++ ['$'])) := by
            simp [Item.source, Item.quoted]
          rw [List.filterMap_cons_none (by rfl), ← ih hrest, hsource, groupedNames_group hbody]

theorem groupedNames_toRegex (pattern : List Char) :
    groupedNames (toRegex pattern) = placeholderNames pattern := by
  rw [toRegex_eq_source, groupedNames_cons (by decide),
    groupedNames_flatMap_source wellFormed_of_mem_items, filterMap_name?_items]

/-! The whole. -/

/-- The names in a division are those of the placeholders. -/
theorem row_divide_names (pattern : List Char) :
    (divide pattern).row (fun _ => []) (fun name => [name]) = placeholderNames pattern := by
  rw [← filterMap_name?_placeholders, takeAll_placeholder_eq_row,
    Division.row_map fun a b => List.filterMap_append]
  simp only [filterMap_name?_map_char]
  rfl

/-- A division makes up the pattern. -/
theorem row_divide_text (pattern : List Char) :
    (divide pattern).row id (fun name => ':' :: name) = pattern := by
  have htext := flatMap_text_takeAll text_placeholderItem (pattern.map .char)
  rw [takeAll_placeholder_eq_row, Division.row_map fun a b => List.flatMap_append,
    flatMap_text_map_char] at htext
  simp only [flatMap_text_map_char, List.flatMap_singleton] at htext
  exact htext

/-- The passes behind the one for placeholders leave alone what it put into a pattern. -/
structure KeepsGroups (pattern : List Char) : Prop where
  /-- The pattern is divided at all of its placeholders. -/
  text : (divide pattern).row id (fun name => ':' :: name) = pattern
  names : (divide pattern).row (fun _ => []) (fun name => [name]) = placeholderNames pattern
  inserted : grouped pattern = (divide pattern).row quote placeholderGroups
  /-- Each character of the groups is kept, and the texts between them are edited as if they stood
  alone. -/
  optionals : edits optionalRule (grouped pattern) =
    (divide pattern).row (fun text => edits optionalRule (quote text))
      fun name => (placeholderGroups name).map .kept
  choices : edits choiceRule (withOptionals pattern) =
    (divide pattern).row (fun text => edits choiceRule (optionalRule.replaceAll (quote text)))
      fun name => (placeholderGroups name).map .kept
  escapes : toRegex pattern = '^' :: (divide pattern).row (fun text => unescape inertCharacters
    (choiceRule.replaceAll (optionalRule.replaceAll (quote text)))) placeholderGroups ++ ['$']
  /-- The groups of each placeholder are found once, and in order. -/
  found : groupedNames (toRegex pattern) = placeholderNames pattern

/-- The passes over a pattern go by pairs of a backslash and the character behind it. -/
structure KeepsPairs (pattern : List Char) : Prop where
  paired : ∀ text ∈ [quote pattern, grouped pattern, withOptionals pattern, withChoices pattern,
    toRegex pattern], Paired text
  placeholders : EditsPairs placeholderRule (quote pattern)
  optionals : EditsPairs optionalRule (grouped pattern)
  choices : EditsPairs choiceRule (withOptionals pattern)

theorem keepsGroups (pattern : List Char) : KeepsGroups pattern where
  text := row_divide_text pattern
  names := row_divide_names pattern
  inserted := grouped_eq_row pattern
  optionals := edits_grouped pattern
  choices := edits_withOptionals pattern
  escapes := by rw [toRegex_eq_withChoices, unescape_withChoices]
  found := groupedNames_toRegex pattern

/-- The text is in pairs before the passes and after each of them. -/
theorem paired_of_mem_passes {pattern text : List Char}
    (h : text ∈ [quote pattern, grouped pattern, withOptionals pattern, withChoices pattern,
      toRegex pattern]) : Paired text := by
  have hchoices : Paired (withChoices pattern) := by
    rw [withChoices_eq_quotedAll]
    exact paired_quotedAll wellFormed_of_mem_items
  simp only [List.mem_cons, List.not_mem_nil, or_false] at h
  rcases h with rfl | rfl | rfl | rfl | rfl
  · rw [quote_eq_quotedAll]
    exact paired_quotedAll fun i hi => (isEarly_of_mem_map i hi).wellFormed
  · rw [grouped_eq_quotedAll]
    exact paired_quotedAll fun i hi => (isEarly_of_mem_earlyItems i hi).wellFormed
  · rw [withOptionals_eq_quotedAll]
    exact paired_quotedAll fun i hi =>
      (isLate_of_mem_takeAll isEarly_of_mem_earlyItems i hi).wellFormed
  · exact hchoices
  · rw [toRegex_eq_withChoices, List.cons_append]
    -- a backslash is not among what loses its backslash, so no pair is torn apart
    exact .single (by decide)
      ((hchoices.unescape (by decide)).append (.single (by decide) .nil))

/-- No pass touches what was put in for a placeholder, so the groups of each placeholder stand in
the regular expression once, and in order. The texts of all passes are in pairs, and no pass
begins or ends an edit inside of one. -/
theorem passes_are_hygienic (pattern : List Char) : KeepsGroups pattern ∧ KeepsPairs pattern := by
  have hearly : ∀ i ∈ earlyItems pattern, i.IsEarly := isEarly_of_mem_earlyItems
  have hlate : ∀ i ∈ optionalItem.takeAll (earlyItems pattern), i.IsLate :=
    isLate_of_mem_takeAll hearly
  have hplaceholders : EditsPairs placeholderRule (quote pattern) := by
    rw [quote_eq_quotedAll]
    exact simulates_placeholder.editsPairs (fun h => (placeholderItem_makes h).2) isChar_of_mem_map
      fun i hi => (isEarly_of_mem_map i hi).wellFormed
  have hoptionals : EditsPairs optionalRule (grouped pattern) := by
    rw [grouped_eq_quotedAll]
    exact simulates_optional.editsPairs stopsAtPlaceholders_optional.goesOn hearly
      fun i hi => (hearly i hi).wellFormed
  have hchoices : EditsPairs choiceRule (withOptionals pattern) := by
    rw [withOptionals_eq_quotedAll]
    exact simulates_choice.editsPairs stopsAtPlaceholders_choice.goesOn hlate
      fun i hi => (hlate i hi).wellFormed
  exact ⟨keepsGroups pattern, fun _ => paired_of_mem_passes, hplaceholders, hoptionals, hchoices⟩

end Stepwise.Turnip
