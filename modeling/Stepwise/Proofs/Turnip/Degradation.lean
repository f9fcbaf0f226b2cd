import Stepwise.Proofs.Turnip.Arguments

/-!
# Which turnip patterns make degraded matchers

The regular expression of a pattern compiles whatever its text is, as long as its
placeholders have names for groups, and different ones. Main statement: without a size
limit, the matcher of a pattern is degraded exactly if the name of a placeholder begins with
a digit, or two placeholders have the same name.
-/

namespace Stepwise.Turnip

open Regex

/-! Expressions that are not read to the end. -/

variable {front back : List Char} {ls : List Lexeme}

/-- An expression is no good if what stands behind its first parts cannot be cut. -/
theorem parse_of_lexemes_error (hfront : Lexes front ls) (hback : Separate back)
    (herror : ∀ mode : LexicalMode, mode.Plain → ∃ fault, lexemes mode back = .error fault) :
    ∃ fault, parse (front ++ back) = .error fault := by
  obtain ⟨mode, hmode, hlexemes⟩ := hfront {} back ⟨rfl, by simp⟩ hback
  obtain ⟨fault, hfault⟩ := herror mode hmode
  refine ⟨fault, ?_⟩
  rw [parse, hlexemes, hfault]
  rfl

/-- An expression is no good if its first parts cannot be taken in, whatever stands behind
them. -/
theorem parse_of_take_error {fault : Fault} (hfront : Lexes front ls) (hback : Separate back)
    (herror : ls.foldlM TreeBuilder.take {} = .error fault) :
    ∃ fault, parse (front ++ back) = .error fault := by
  obtain ⟨mode, -, hlexemes⟩ := hfront {} back ⟨rfl, by simp⟩ hback
  rw [parse, hlexemes]
  cases hrest : lexemes mode back with
  | error other => exact ⟨other, rfl⟩
  | ok ms =>
      refine ⟨fault, ?_⟩
      change ((ls ++ ms).foldlM TreeBuilder.take {} >>= fun builder => builder.finish) = _
      rw [List.foldlM_append, herror]
      rfl

theorem isDegraded_of_parse_error {source : List Char}
    (h : ∃ fault, parse source = .error fault) (limit : Option Nat) :
    (Matcher.ofSourceWithin limit (String.ofList source)).isDegraded = true := by
  obtain ⟨fault, hfault⟩ := h
  rw [Matcher.isDegraded, Matcher.ofSourceWithin, String.toList_ofList, compile, hfault]
  rfl

/-- No name of a group begins with a digit. -/
theorem readGroupName_of_isDigit {c : Char} (hc : c.isDigit = true) (rest : List Char) :
    readGroupName (c :: rest) = .error .badGroupName := by
  have hstart : isNameStart c = false := by
    have hunderscore : c ≠ '_' := by
      rintro rfl
      exact absurd hc (by decide)
    rw [isNameStart, Unicode.isAlphabetic_of_isDigit hc, Bool.or_false]
    exact decide_eq_false hunderscore
  have hclosed : c ≠ '>' := by
    rintro rfl
    exact absurd hc (by decide)
  have htake : (c :: rest).takeWhile (· ≠ '>') = c :: rest.takeWhile (· ≠ '>') :=
    List.takeWhile_cons_of_pos (decide_eq_true hclosed)
  unfold readGroupName
  rw [htake]
  split
  · rename_i first others closing after heq hdrop
    rw [← (List.cons.inj heq).1, hstart]
    rfl
  · rfl

theorem lexemes_digit {mode : LexicalMode} (hmode : mode.Plain) {c : Char}
    (hc : c.isDigit = true) (rest : List Char) :
    lexemes mode ('(' :: '?' :: 'P' :: '<' :: c :: rest) = .error .badGroupName := by
  have hread : Lexeme.read false ('(' :: '?' :: 'P' :: '<' :: c :: rest) =
      .error .badGroupName := by
    change (readGroupName (c :: rest)).map _ = _
    rw [readGroupName_of_isDigit hc]
    rfl
  rw [lexemes, hmode.1, skipBlanks_false]
  simp only [hread]

/-! The first placeholder whose name does not fit. -/

/-- Names of placeholders that begin with no digits and are different. -/
def WellNamed (names : List (List Char)) : Prop :=
  (∀ name ∈ names, ∀ c ∈ name.head?, c.isDigit = false) ∧ names.Nodup

/-- Whether a name does not fit to some others: it begins with a digit, or is one of them. -/
def Misnamed (names : List (List Char)) (name : List Char) : Prop :=
  (∃ c ∈ name.head?, c.isDigit = true) ∨ name ∈ names

theorem wellNamed_append_singleton {names : List (List Char)} {name : List Char} :
    WellNamed (names ++ [name]) ↔ WellNamed names ∧ ¬Misnamed names name := by
  have hdigit : (¬∃ c ∈ name.head?, c.isDigit = true) ↔ ∀ c ∈ name.head?, c.isDigit = false := by
    simp
  have hnodup : (names ++ [name]).Nodup ↔ name ∉ names ∧ names.Nodup := by
    rw [List.nodup_append_comm, List.singleton_append, List.nodup_cons]
  simp only [WellNamed, Misnamed, not_or, List.forall_mem_append, List.forall_mem_singleton,
    hdigit, hnodup]
  tauto

/-- Among items whose names do not fit, there is a first one. -/
theorem exists_misnamed {items : List Item} (h : ¬WellNamed (items.filterMap Item.name?)) :
    ∃ front name back, items = front ++ .placeholder name :: back ∧
      WellNamed (front.filterMap Item.name?) ∧ Misnamed (front.filterMap Item.name?) name := by
  induction items using List.reverseRecOn with
  | nil => exact absurd ⟨by simp, List.nodup_nil⟩ h
  | append_singleton items item ih =>
      by_cases hitems : WellNamed (items.filterMap Item.name?)
      · rw [List.filterMap_append] at h
        cases hname : item.name? with
        | none =>
            rw [List.filterMap_cons_none hname, List.filterMap_nil, List.append_nil] at h
            exact absurd hitems h
        | some name =>
            rw [List.filterMap_cons_some hname, List.filterMap_nil,
              wellNamed_append_singleton] at h
            refine ⟨items, name, [], ?_, hitems, ?_⟩
            · rw [eq_placeholder_of_name? hname]
            · by_contra hfits
              exact h ⟨hitems, hfits⟩
      · obtain ⟨front, name, back, rfl, hfront, hname⟩ := ih hitems
        refine ⟨front, name, back ++ [item], ?_, hfront, hname⟩
        rw [List.append_assoc, List.cons_append]

/-! Patterns with such a name. -/

/-- The front of an expression, up to the name of a placeholder, is cut into lexemes that are
taken in with the names of the groups so far. -/
theorem lexes_before_name {items : List Item} (hwell : ∀ i ∈ items, i.WellFormed)
    (hnames : WellNamed (items.filterMap Item.name?)) :
    ∃ ls builder, Lexes ('^' :: (items.flatMap Item.source ++ ['(', '?', ':', '"'])) ls ∧
      ls.foldlM TreeBuilder.take {} = .ok builder ∧
        builder.names = (items.flatMap Item.groupNames).reverse := by
  obtain ⟨hseparate, ls, hls, hts⟩ := spells_flatMap_source hwell hnames.1 0
  have hquote : Separate ['"'] := separate_cons (by decide) []
  have hopen : Separate ['(', '?', ':', '"'] := separate_cons (by decide) _
  have hplaceholder := lexes_open.append (lexes_literal (c := '"') (by decide)) hquote
  have hlexes := (lexes_start.append hls hseparate).append hplaceholder hopen
  have hdistinct := (distinct_groupNames hnames.2 hwell).reverse
  obtain ⟨builder, hbuilt, hbuilder⟩ : ∃ builder : TreeBuilder,
      ([Lexeme.atom (.anchor .lineStart)] ++ ls).foldlM TreeBuilder.take {} = .ok builder ∧
        builder.names = (items.flatMap Item.groupNames).reverse :=
    ⟨_, (builds_atom _).append hts {} rfl (by simpa using hdistinct), List.append_nil _⟩
  refine ⟨_, (builder.open (.group []) builder.names).add (.literal ⟨'"', false⟩), hlexes, ?_,
    hbuilder⟩
  rw [List.foldlM_append, hbuilt]
  rfl

/-- An expression with a group whose name begins with a digit, or is the name of another group,
is no good. -/
theorem parse_of_misnamed {items : List Item} {name : List Char}
    (hwell : ∀ i ∈ items, i.WellFormed) (hplaceholder : (Item.placeholder name).WellFormed)
    (hnames : WellNamed (items.filterMap Item.name?))
    (hname : Misnamed (items.filterMap Item.name?) name) (back : List Char) :
    ∃ fault, parse ('^' :: (items.flatMap Item.source ++ (placeholderGroups name ++ back))) =
      .error fault := by
  obtain ⟨ls, builder, hlexes, htake, hbuilder⟩ := lexes_before_name hwell hnames
  obtain ⟨c, others, rfl⟩ := List.exists_cons_of_ne_nil hplaceholder.1
  obtain ⟨behind, hgroups⟩ : ∃ behind, placeholderGroups (c :: others) ++ back =
      ['(', '?', ':', '"'] ++ ('(' :: '?' :: 'P' :: '<' :: (c :: others) ++ ['>'] ++
        ('[' :: behind)) := by
    rw [placeholderGroups_eq]
    simp
  have hsplit : '^' :: (items.flatMap Item.source ++ (placeholderGroups (c :: others) ++ back)) =
      '^' :: (items.flatMap Item.source ++ ['(', '?', ':', '"']) ++
        ('(' :: '?' :: 'P' :: '<' :: (c :: others) ++ ['>'] ++ ('[' :: behind)) := by
    rw [hgroups]
    simp
  rw [hsplit]
  rcases hname with ⟨d, hd, hdigit⟩ | hmem
  · rw [Option.mem_some_iff.mp hd] at *
    refine parse_of_lexemes_error hlexes (separate_cons (by decide) _) fun mode hmode => ?_
    exact ⟨_, lexemes_digit hmode hdigit _⟩
  · -- The opening of the group is a lexeme, but another group has its name.
    have hgroup : IsGroupName (c :: others) :=
      isGroupName_of_mem_aliases hplaceholder (hnames.1 _ hmem) List.mem_cons_self
    have hopened := hlexes.append (lexes_named hgroup) (separate_cons (by decide) _)
    have hused : some (String.ofList (c :: others)) ∈ builder.names := by
      obtain ⟨item, hitem, hsome⟩ := List.mem_filterMap.mp hmem
      rw [eq_placeholder_of_name? hsome] at hitem
      rw [hbuilder, List.mem_reverse]
      exact List.mem_flatMap.mpr ⟨_, hitem, List.mem_cons_self⟩
    have hrefused : builder.take (.openGroup (.capture (some (String.ofList (c :: others))))) =
        .error (.repeatedGroupName (String.ofList (c :: others))) :=
      if_pos (List.contains_iff_mem.mpr hused)
    rw [← List.append_assoc]
    apply parse_of_take_error hopened (separate_cons (by decide) _)
    rw [List.foldlM_append, htake]
    change List.foldlM TreeBuilder.take builder [_] = _
    rw [List.foldlM_cons, hrefused]
    rfl

/-- A pattern with a misnamed placeholder has a degraded matcher, whatever the limit. -/
theorem isDegraded_of_not_wellNamed {pattern : String}
    (h : ¬WellNamed (placeholderNames pattern.toList)) (limit : Option Nat) :
    (Matcher.ofSourceWithin limit (turnipNotation.toRegex pattern)).isDegraded = true := by
  rw [← filterMap_name?_items] at h
  obtain ⟨front, name, back, hitems, hnames, hname⟩ := exists_misnamed h
  have hwell : ∀ i ∈ front ++ .placeholder name :: back, i.WellFormed := by
    rw [← hitems]
    exact wellFormed_of_mem_items
  obtain ⟨hfront, hback⟩ := List.forall_mem_append.mp hwell
  have hparse := parse_of_misnamed hfront (hback _ List.mem_cons_self) hnames hname
    (back.flatMap Item.source ++ ['$'])
  rw [ofSourceWithin_toRegex, wholeMatcher, hitems, List.flatMap_append, List.flatMap_cons,
    List.append_assoc, List.append_assoc]
  exact isDegraded_of_parse_error hparse limit

/-- Without a size limit, the matcher of a pattern is degraded exactly if a placeholder has a
name that begins with a digit, or two placeholders have the same name. -/
theorem isDegraded_toRegex_iff (pattern : String) :
    (Matcher.ofSourceWithin none (turnipNotation.toRegex pattern)).isDegraded = true ↔
      (∃ name ∈ placeholderNames pattern.toList, ∃ c ∈ name.head?, c.isDigit = true) ∨
        ¬(placeholderNames pattern.toList).Nodup := by
  have hwell : ¬WellNamed (placeholderNames pattern.toList) ↔
      (∃ name ∈ placeholderNames pattern.toList, ∃ c ∈ name.head?, c.isDigit = true) ∨
        ¬(placeholderNames pattern.toList).Nodup := by
    rw [WellNamed, not_and_or]
    simp
  rw [← hwell]
  constructor
  · intro hdegraded hnames
    rw [isDegraded_toRegex hnames.2 hnames.1] at hdegraded
    exact Bool.false_ne_true hdegraded
  · intro h
    exact isDegraded_of_not_wellNamed h none

end Stepwise.Turnip
