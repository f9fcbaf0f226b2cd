import Mathlib.Tactic.Convert
import Stepwise.Proofs.Regex.Spelling
import Stepwise.Proofs.Turnip.Passes
import Stepwise.Proofs.Unicode.Tables

/-!
# The trees of turnip patterns

The regular expression of a pattern is read as the trees of its items, one item behind the
other. Main statement: it spells these trees, with three groups for each placeholder, and none
of them is nested deeply.
-/

namespace Stepwise.Turnip

open Regex

/-! The names of groups. -/

/-- The names of the groups of a placeholder. -/
def aliases (name : List Char) : List (List Char) :=
  [name, name ++ ".single".toList, name ++ ".bare".toList]

def Item.groupNames : Item → List (Option String)
  | .placeholder name => (aliases name).map fun n => some (String.ofList n)
  | _ => []

theorem takeWhile_of_mem_aliases {name n : List Char} (hname : '.' ∉ name)
    (hn : n ∈ aliases name) : n.takeWhile (· ≠ '.') = name := by
  have hall : ∀ c ∈ name, decide (c ≠ '.') = true := by
    intro c hc
    exact decide_eq_true fun heq => hname (heq ▸ hc)
  simp only [aliases, List.mem_cons, List.not_mem_nil, or_false] at hn
  rcases hn with rfl | rfl | rfl
  · exact List.takeWhile_eq_self_iff.mpr hall
  · exact (span_append '.' ['s', 'i', 'n', 'g', 'l', 'e'] hall (by decide)).1
  · exact (span_append '.' ['b', 'a', 'r', 'e'] hall (by decide)).1

theorem nodup_aliases (name : List Char) : (aliases name).Nodup := by
  have hsingle : name ≠ name ++ ['.', 's', 'i', 'n', 'g', 'l', 'e'] := by simp
  have hbare : name ≠ name ++ ['.', 'b', 'a', 'r', 'e'] := by simp
  have hboth : name ++ ['.', 's', 'i', 'n', 'g', 'l', 'e'] ≠ name ++ ['.', 'b', 'a', 'r', 'e'] := by
    simp
  refine List.nodup_cons.mpr ⟨?_, List.nodup_cons.mpr ⟨?_, List.nodup_singleton _⟩⟩
  · simp only [List.mem_cons, List.not_mem_nil, or_false, not_or]
    exact ⟨hsingle, hbare⟩
  · simp only [List.mem_cons, List.not_mem_nil, or_false]
    exact hboth

/-- Placeholders with different names have groups with different names. -/
theorem nodup_flatMap_aliases {names : List (List Char)} (hnames : names.Nodup)
    (hdot : ∀ name ∈ names, '.' ∉ name) : (names.flatMap aliases).Nodup := by
  rw [List.nodup_flatMap]
  refine ⟨fun name _ => nodup_aliases name, ?_⟩
  apply hnames.imp_of_mem
  intro a b ha hb hab n hna hnb
  apply hab
  rw [← takeWhile_of_mem_aliases (hdot a ha) hna, takeWhile_of_mem_aliases (hdot b hb) hnb]

theorem groupNames_eq_aliases (items : List Item) :
    (items.flatMap Item.groupNames).filterMap id =
      ((items.filterMap Item.name?).flatMap aliases).map String.ofList := by
  induction items with
  | nil => rfl
  | cons item rest ih =>
      rw [List.flatMap_cons, List.filterMap_append, ih]
      cases item with
      | placeholder name =>
          rw [List.filterMap_cons_some (by rfl), List.flatMap_cons, List.map_append]
          rfl
      | char c => rfl
      | optional lead text trail => rfl
      | choice left right => rfl

theorem distinct_groupNames {items : List Item} (hnodup : (items.filterMap Item.name?).Nodup)
    (hwell : ∀ i ∈ items, i.WellFormed) : Distinct (items.flatMap Item.groupNames) := by
  rw [Distinct, groupNames_eq_aliases]
  apply List.Nodup.map (fun a b h => String.ofList_injective h)
  apply nodup_flatMap_aliases hnodup
  intro name hname
  obtain ⟨item, hitem, hsome⟩ := List.mem_filterMap.mp hname
  cases item with
  | placeholder n =>
      have hn : n = name := Option.some.inj hsome
      rw [← hn]
      intro hmem
      exact absurd ((hwell _ hitem).2 _ hmem) (by decide)
  | char c => exact absurd hsome (by simp [Item.name?])
  | optional lead text trail => exact absurd hsome (by simp [Item.name?])
  | choice left right => exact absurd hsome (by simp [Item.name?])

theorem isGroupName_of_mem_aliases {name n : List Char} (hwell : (Item.placeholder name).WellFormed)
    (hdigit : ∀ c ∈ name.head?, c.isDigit = false) (hn : n ∈ aliases name) : IsGroupName n := by
  obtain ⟨hne, hall⟩ := hwell
  obtain ⟨c, others, rfl⟩ := List.exists_cons_of_ne_nil hne
  have hcharacter : ∀ d, isNameCharacter d = true → Regex.isNameCharacter d = true := by
    intro d hd
    rcases Bool.or_eq_true_iff.mp hd with hd | hd
    · rw [Regex.isNameCharacter, Unicode.isAlphanumeric_of_isAlphanum hd, Bool.or_true]
    · rw [Regex.isNameCharacter, hd]
      rfl
  have hstart : isNameStart c = true := by
    have hc := hall c List.mem_cons_self
    have hnot := hdigit c rfl
    rcases Bool.or_eq_true_iff.mp hc with hc | hc
    · rcases Bool.or_eq_true_iff.mp hc with hc | hc
      · rw [isNameStart, Unicode.isAlphabetic_of_isAlpha hc, Bool.or_true]
      · rw [hnot] at hc
        exact Bool.noConfusion hc
    · rw [isNameStart, hc, Bool.true_or]
  have hopen : '>' ∉ c :: others := by
    intro hmem
    exact absurd (hall _ hmem) (by decide)
  have hsuffix {suffix : List Char} (h : ∀ d ∈ suffix, d = '.' ∨ d.isAlphanum = true) :
      ∀ d ∈ suffix, Regex.isNameCharacter d = true := by
    intro d hd
    rcases h d hd with rfl | hd
    · rfl
    · rw [Regex.isNameCharacter, Unicode.isAlphanumeric_of_isAlphanum hd, Bool.or_true]
  have hname (suffix : List Char) (hsuffix : ∀ d ∈ suffix, Regex.isNameCharacter d = true)
      (hclosed : '>' ∉ suffix) : IsGroupName (c :: others ++ suffix) := by
    refine ⟨⟨c, rfl, hstart⟩, ?_, ?_⟩
    · intro d hd
      rcases List.mem_append.mp hd with hd | hd
      · exact hcharacter d (hall d (List.mem_cons_of_mem c hd))
      · exact hsuffix d hd
    · exact List.not_mem_append hopen hclosed
  simp only [aliases, List.mem_cons, List.not_mem_nil, or_false] at hn
  rcases hn with rfl | rfl | rfl
  · simpa using hname [] (by simp) (by simp)
  · exact hname ['.', 's', 'i', 'n', 'g', 'l', 'e']
      (hsuffix (List.all_iff_forall_prop.mp (by decide))) (by decide)
  · exact hname ['.', 'b', 'a', 'r', 'e']
      (hsuffix (List.all_iff_forall_prop.mp (by decide))) (by decide)

/-! The trees of items. -/

/-- The trees of a word between two word boundaries, which is remembered. -/
def bareTrees (index : Nat) : List Tree :=
  [.anchor (.edge .boundary), .capture index (.repeated (.short false .word) 1 none true),
    .anchor (.edge .boundary)]

/-- The tree of a placeholder behind a number of groups. -/
def placeholderTree (n : Nat) : Tree :=
  .group [] (Tree.choice
    [Tree.sequence (enclosedTrees '"' 1 (n + 1)), Tree.sequence (enclosedTrees '\'' 1 (n + 2)),
      Tree.sequence (bareTrees (n + 3))])

/-- The tree of a text that may be missing. -/
def maybeTree (cs : List Char) : Tree :=
  .repeated (.group [] (Tree.sequence (plainTrees cs))) 0 (some 1) true

/-- The trees of an item behind a number of groups. -/
def Item.trees (n : Nat) : Item → List Tree
  | .char c => plainTrees [c]
  | .placeholder _ => [placeholderTree n]
  | .optional lead text trail =>
      lead.toList.map (maybeTree [·]) ++ maybeTree text :: trail.toList.map (maybeTree [·])
  | .choice left right =>
      [.group [] (Tree.choice [Tree.sequence (plainTrees left), Tree.sequence (plainTrees right)])]

/-- The trees of a row of items behind a number of groups. -/
def rowTrees : Nat → List Item → List Tree
  | _, [] => []
  | n, item :: rest => item.trees n ++ rowTrees (n + item.groupNames.length) rest

theorem isPlain_of_mem_metacharacters : ∀ c ∈ metacharacters, isPlain c = false :=
  List.all_iff_forall_prop.mp (by decide)

theorem not_mem_metacharacters {cs : List Char} (h : ∀ c ∈ cs, isPlain c = true) :
    ∀ c ∈ cs, c ∉ metacharacters := by
  intro c hc hspecial
  have hplain := h c hc
  rw [isPlain_of_mem_metacharacters c hspecial] at hplain
  exact Bool.noConfusion hplain

/-- A value between quotes, with a name for its group. -/
theorem spells_enclosed (quote : Char) (hplain : quote ∉ metacharacters)
    (hset : quote ∉ ['[', ']', '\\', '-', '&', '~']) {name : List Char} (hname : IsGroupName name)
    (n : Nat) :
    Spells (quote :: ('(' :: '?' :: 'P' :: '<' :: name ++ ['>'] ++
        (['[', '^', quote, ']'] ++ ['+'] ++ [')']) ++ [quote])) n [some (String.ofList name)]
      (enclosedTrees quote 1 (n + 1)) :=
  (((spells_allBut hset (n + 1)).plus (by simp)).any.named hname).enclosed hplain

theorem spells_bare {name : List Char} (hname : IsGroupName name) (n : Nat) :
    Spells (['\\', 'b'] ++ ('(' :: '?' :: 'P' :: '<' :: name ++ ['>'] ++
        (['\\', 'w'] ++ ['+'] ++ [')']) ++ ['\\', 'b'])) n [some (String.ofList name)]
      (bareTrees (n + 1)) :=
  have hvalue := ((spells_word (n + 1)).plus (by simp)).any.named hname
  (spells_boundary n).append (hvalue.append (spells_boundary (n + 1)))

theorem spells_placeholderGroups {name : List Char} (hwell : (Item.placeholder name).WellFormed)
    (hdigit : ∀ c ∈ name.head?, c.isDigit = false) (n : Nat) :
    Spells (placeholderGroups name) n (Item.placeholder name).groupNames [placeholderTree n] := by
  have hname {m : List Char} (h : m ∈ aliases name) : IsGroupName m :=
    isGroupName_of_mem_aliases hwell hdigit h
  have hdouble := spells_enclosed '"' (by decide) (by decide)
    (hname List.mem_cons_self) n
  have hsingle := spells_enclosed '\'' (by decide) (by decide)
    (hname (List.mem_cons_of_mem _ List.mem_cons_self)) (n + 1)
  have hbare := spells_bare
    (hname (List.mem_cons_of_mem _ (List.mem_cons_of_mem _ List.mem_cons_self))) (n + 2)
  have hall := (hdouble.or (hsingle.or hbare.any)).group
  convert hall using 1
  · rw [placeholderGroups_eq]
    simp
  · rfl
  · rfl

theorem spells_maybe {cs : List Char} (h : ∀ c ∈ cs, isPlain c = true) (n : Nat) :
    Spells (maybe cs) n [] [maybeTree cs] :=
  (spells_plain (not_mem_metacharacters h) n).any.maybe

theorem spells_maybeSpace {lead : Option Char} (h : ∀ c ∈ lead, Unicode.isSpace c = true)
    (n : Nat) : Spells (maybeSpace lead) n [] (lead.toList.map (maybeTree [·])) := by
  cases lead with
  | none => exact spells_nil n
  | some c => exact spells_maybe (List.forall_mem_singleton.mpr (isPlain_of_isSpace (h c rfl))) n

theorem spells_choice {left right : List Char} (hleft : ∀ c ∈ left, Unicode.isWord c = true)
    (hright : ∀ c ∈ right, Unicode.isWord c = true) (n : Nat) :
    Spells (Item.choice left right).quoted n [] ((Item.choice left right).trees n) := by
  have hword {cs : List Char} (h : ∀ c ∈ cs, Unicode.isWord c = true) :
      ∀ c ∈ cs, c ∉ metacharacters :=
    not_mem_metacharacters fun c hc => isPlain_of_isWord (h c hc)
  have hl := spells_plain (hword hleft) n
  have hr := (spells_plain (hword hright) n).any
  have hall := (hl.or hr).group
  rw [List.append_nil] at hall
  have hquoted : (Item.choice left right).quoted =
      '(' :: '?' :: ':' :: (left ++ '|' :: right ++ [')']) := by
    simp [Item.quoted]
  rw [hquoted]
  exact hall

theorem Item.spells_source {item : Item} (hwell : item.WellFormed)
    (hdigit : ∀ name ∈ item.name?, ∀ c ∈ name.head?, c.isDigit = false) (n : Nat) :
    Spells item.source n item.groupNames (item.trees n) := by
  cases item with
  | char c =>
      by_cases hc : c ∈ quotedCharacters ∧ c ∉ inertCharacters
      · rw [Item.source, if_pos hc]
        have hspecial : ∀ d ∈ quotedCharacters, d ∉ inertCharacters → isSpecial d = true :=
          List.all_iff_forall_prop.mp (by decide)
        exact spells_quoted (Or.inl (hspecial c hc.1 hc.2)) n
      · rw [Item.source, if_neg hc]
        have hplain : ∀ d ∈ metacharacters, d ∈ quotedCharacters ∧ d ∉ inertCharacters :=
          List.all_iff_forall_prop.mp (by decide)
        exact spells_literal (fun hmem => hc (hplain c hmem)) n
  | placeholder name => exact spells_placeholderGroups hwell (hdigit name rfl) n
  | optional lead text trail =>
      obtain ⟨-, htext, hlead, htrail⟩ := hwell
      have hall := (spells_maybeSpace hlead n).append
        ((spells_maybe htext n).append (spells_maybeSpace htrail n))
      rw [← List.append_assoc] at hall
      exact hall
  | choice left right => exact spells_choice hwell.1.2 hwell.2.2 n

/-- A row of items spells the trees of the items. -/
theorem spells_flatMap_source {items : List Item} (hwell : ∀ i ∈ items, i.WellFormed)
    (hdigit : ∀ name ∈ items.filterMap Item.name?, ∀ c ∈ name.head?, c.isDigit = false) (n : Nat) :
    Spells (items.flatMap Item.source) n (items.flatMap Item.groupNames) (rowTrees n items) := by
  induction items generalizing n with
  | nil => exact spells_nil n
  | cons item rest ih =>
      have hname : ∀ name ∈ item.name?, ∀ c ∈ name.head?, c.isDigit = false := by
        intro name hname
        exact hdigit name (List.mem_filterMap.mpr ⟨item, List.mem_cons_self, hname⟩)
      have hnames : ∀ name ∈ rest.filterMap Item.name?, ∀ c ∈ name.head?, c.isDigit = false := by
        intro name hmem
        obtain ⟨i, hi, hsome⟩ := List.mem_filterMap.mp hmem
        exact hdigit name (List.mem_filterMap.mpr ⟨i, List.mem_cons_of_mem item hi, hsome⟩)
      exact (Item.spells_source (hwell item List.mem_cons_self) hname n).append
        (ih (fun i hi => hwell i (List.mem_cons_of_mem item hi)) hnames _)

/-! The depth of the trees. -/

theorem depth_maybeTree (cs : List Char) : (maybeTree cs).depth .none ≤ 8 := by
  have hdepth := (Tree.depth_sequence_le (depth_plainTrees cs)).2
  rw [maybeTree, Tree.depth, Tree.depth]
  omega

/-- The trees of an item are not nested too deeply. -/
theorem Item.depth_trees (item : Item) (n : Nat) : ∀ t ∈ item.trees n, t.depth .none ≤ 8 := by
  intro t ht
  cases item with
  | char c => exact Nat.le_trans (depth_plainTrees [c] t ht) (Nat.zero_le 8)
  | placeholder name =>
      rw [List.mem_singleton.mp ht]
      exact Nat.le_of_ble_eq_true rfl
  | optional lead text trail =>
      simp only [Item.trees, List.mem_append, List.mem_cons, List.mem_map] at ht
      rcases ht with ⟨c, -, rfl⟩ | rfl | ⟨c, -, rfl⟩
      · exact depth_maybeTree [c]
      · exact depth_maybeTree text
      · exact depth_maybeTree [c]
  | choice left right =>
      rw [List.mem_singleton.mp ht]
      have hl := (Tree.depth_sequence_le (depth_plainTrees left)).2
      have hr := (Tree.depth_sequence_le (depth_plainTrees right)).2
      have hwords : ∀ s ∈ [Tree.sequence (plainTrees left), Tree.sequence (plainTrees right)],
          s.depth .none ≤ 1 :=
        List.forall_mem_cons.mpr ⟨hl, List.forall_mem_singleton.mpr hr⟩
      have hdepth := (Tree.depth_choice_le hwords).2
      rw [Tree.depth]
      omega

theorem depth_rowTrees (items : List Item) (n : Nat) :
    ∀ t ∈ rowTrees n items, t.depth .none ≤ 8 := by
  induction items generalizing n with
  | nil => simp [rowTrees]
  | cons item rest ih => exact List.forall_mem_append.mpr ⟨item.depth_trees n, ih _⟩

end Stepwise.Turnip
