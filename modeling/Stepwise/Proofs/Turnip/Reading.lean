import Stepwise.Proofs.Turnip.Sizes

/-!
# What a turnip pattern matches

Each item of a pattern stands for some pieces of a text. Main statement: the regular
expression of a pattern compiles if no size is prescribed, and whenever it compiles, it
matches exactly the texts that consist of one piece for each item.
-/

namespace Stepwise.Turnip

open Regex

/-- A word begins or ends between two texts. -/
def IsWordBoundary (before after : List Char) : Prop :=
  before.getLast?.any Unicode.isWord ≠ after.head?.any Unicode.isWord

/-- Which pieces of a text an item stands for, given what is before and behind them. -/
def Item.Matches : Item → (before piece after : List Char) → Prop
  | .char c => fun _ piece _ => piece = [c]
  | .placeholder _ => fun before piece after =>
      (∃ value, value ≠ [] ∧ '"' ∉ value ∧ piece = '"' :: (value ++ ['"'])) ∨
        (∃ value, value ≠ [] ∧ '\'' ∉ value ∧ piece = '\'' :: (value ++ ['\''])) ∨
          piece ≠ [] ∧ (∀ c ∈ piece, Unicode.isWord c = true) ∧
            IsWordBoundary before (piece ++ after) ∧ IsWordBoundary (before ++ piece) after
  | .optional lead text trail => fun _ piece _ =>
      ∃ front middle back, piece = front ++ (middle ++ back) ∧
        (front = [] ∨ front = lead.toList) ∧ (middle = [] ∨ middle = text) ∧
          (back = [] ∨ back = trail.toList)
  | .choice left right => fun _ piece _ => piece = left ∨ piece = right

/-- A text is made of one piece for each item in a row. -/
def Reads : List Item → (before text : List Char) → Prop
  | [], _, text => text = []
  | item :: rest, before, text =>
      ∃ piece after, text = piece ++ after ∧ item.Matches before piece after ∧
        Reads rest (before ++ piece) after

/-! Passages of items. -/

/-- The passage of a word between two word boundaries, which is remembered. -/
def bareWord (index : Nat) : Passage :=
  (Passage.look (.edge .boundary true)).andThen
    ((((Passage.oneOf Unicode.wordCharacters).timesOf (Passage.allowedTimes 1 none)).group
      index).andThen (.look (.edge .boundary true)))

theorem holds_boundary (before after : List Char) :
    (Look.edge .boundary true).holds before.getLast? after.head? = true ↔
      IsWordBoundary before after := by
  simp [Look.holds, WordEdge.holds, IsWordBoundary]

theorem bareWord_iff {index : Nat} {before piece after : List Char} {marks : List Mark} :
    bareWord index before piece after marks ↔
      (piece ≠ [] ∧ (∀ c ∈ piece, Unicode.isWord c = true) ∧
        IsWordBoundary before (piece ++ after) ∧ IsWordBoundary (before ++ piece) after) ∧
        marks = [⟨2 * index + 1, (before ++ piece).length⟩, ⟨2 * index, before.length⟩] := by
  constructor
  · intro h
    obtain ⟨_, _, _, _, rfl, rfl, ⟨rfl, rfl, hfirst⟩,
      word, _, _, _, rfl, rfl, hgroup, ⟨rfl, rfl, hlast⟩⟩ := h
    obtain ⟨inner, hword, rfl⟩ := (Passage.group_iff _ _ _ _ _ _).mp hgroup
    obtain ⟨hlength, hall, rfl⟩ := Passage.timesOf_oneOf.mp hword
    rw [holds_boundary] at hfirst hlast
    rw [List.append_nil] at hfirst hlast ⊢
    exact ⟨⟨List.ne_nil_of_length_pos hlength, hall, hfirst, hlast⟩, by simp⟩
  · intro h
    obtain ⟨⟨hne, hall, hfirst, hlast⟩, rfl⟩ := h
    have hlength : 1 ≤ piece.length := List.length_pos_of_ne_nil hne
    refine ⟨[], piece, [], _, rfl, (List.append_nil _).symm, ⟨rfl, rfl, ?_⟩,
      piece, [], _, [], (List.append_nil _).symm, rfl,
      (Passage.group_iff _ _ _ _ _ _).mpr
        ⟨[], Passage.timesOf_oneOf.mpr ⟨hlength, hall, rfl⟩, ?_⟩, ⟨rfl, rfl, ?_⟩⟩
    · rw [holds_boundary]
      exact hfirst
    · simp
    · rw [holds_boundary]
      simpa using hlast

theorem accepts_bareWord {index : Nat} {before piece after : List Char} :
    (bareWord index).Accepts before piece after ↔
      piece ≠ [] ∧ (∀ c ∈ piece, Unicode.isWord c = true) ∧
        IsWordBoundary before (piece ++ after) ∧ IsWordBoundary (before ++ piece) after := by
  simp only [Passage.Accepts, bareWord_iff, exists_and_left, exists_eq, and_true]

/-- The passage of a placeholder behind a number of groups. -/
def placeholderPassage (n : Nat) : Passage :=
  (Passage.enclosed '"' 1 (n + 1)).either
    ((Passage.enclosed '\'' 1 (n + 2)).either (bareWord (n + 3)))

theorem accepts_placeholderPassage {n : Nat} {name before piece after : List Char} :
    (placeholderPassage n).Accepts before piece after ↔
      (Item.placeholder name).Matches before piece after := by
  have hlength (value : List Char) : 1 ≤ value.length ↔ value ≠ [] := List.length_pos_iff
  rw [placeholderPassage, Passage.accepts_either, Passage.accepts_either,
    Passage.accepts_enclosed, Passage.accepts_enclosed, accepts_bareWord]
  simp only [Item.Matches, hlength]
  constructor
  · intro h
    rcases h with ⟨value, hpiece, hne, hquote⟩ | ⟨value, hpiece, hne, hquote⟩ | hbare
    · exact Or.inl ⟨value, hne, hquote, hpiece⟩
    · exact Or.inr (Or.inl ⟨value, hne, hquote, hpiece⟩)
    · exact Or.inr (Or.inr hbare)
  · intro h
    rcases h with ⟨value, hne, hquote, hpiece⟩ | ⟨value, hne, hquote, hpiece⟩ | hbare
    · exact Or.inl ⟨value, hpiece, hne, hquote⟩
    · exact Or.inr (Or.inl ⟨value, hpiece, hne, hquote⟩)
    · exact Or.inr (Or.inr hbare)

/-! What the trees of items mean. -/

theorem meanInOrder_bareTrees (index : Nat) :
    Tree.MeanInOrder (bareTrees index) (bareWord index) := by
  have ha : Unicode.wordCharacters.has 'a' = true := by decide
  have hword := Tree.means_capture index
    (Tree.means_run (Tree.means_short .word Unicode.tidy_wordCharacters) ha 1)
  have hboundary : (Tree.anchor (.edge .boundary)).Means (.look (.edge .boundary true)) :=
    Tree.means_look rfl
  exact hboundary.inOrder.append (hword.inOrder.append hboundary.inOrder)

theorem means_placeholderTree (n : Nat) : (placeholderTree n).Means (placeholderPassage n) :=
  have henclosed (quote : Char) (index : Nat) :=
    (meanInOrder_enclosedTrees quote 1 index).sequence
  Tree.means_group (Tree.means_alt (henclosed '"' (n + 1))
    (Tree.means_alt (henclosed '\'' (n + 2)) (meanInOrder_bareTrees (n + 3)).sequence))

/-- The passage of a text that may be missing. -/
def maybePassage (cs : List Char) : Passage :=
  Passage.nil.either (.text cs)

theorem means_maybeTree {cs : List Char} (hne : cs ≠ []) :
    (maybeTree cs).Means (maybePassage cs) := by
  have hmatch : Passage.text cs [] cs [] [] := ⟨rfl, rfl⟩
  rw [maybePassage, ← Passage.timesOf_maybe]
  exact Tree.means_repeated (Tree.means_group (meanInOrder_plainTrees cs).sequence) hmatch hne
    0 (some 1) true

theorem meanInOrder_maybeSpace (lead : Option Char) :
    Tree.MeanInOrder (lead.toList.map (maybeTree [·])) (maybePassage lead.toList) := by
  cases lead with
  | none =>
      have hnil : maybePassage [] = .nil := Passage.ext fun _ _ _ _ => or_self_iff
      rw [Option.toList_none, hnil]
      exact Tree.meanInOrder_nil
  | some c => exact (means_maybeTree (List.cons_ne_nil c [])).inOrder

/-- The passage of an item behind a number of groups. -/
def Item.passage (n : Nat) : Item → Passage
  | .char c => .text [c]
  | .placeholder _ => placeholderPassage n
  | .optional lead text trail =>
      (maybePassage lead.toList).andThen ((maybePassage text).andThen (maybePassage trail.toList))
  | .choice left right => (Passage.text left).either (.text right)

/-- The trees of an item mean its passage. -/
theorem Item.meanInOrder_trees {item : Item} (hwell : item.WellFormed) (n : Nat) :
    Tree.MeanInOrder (item.trees n) (item.passage n) := by
  cases item with
  | char c => exact meanInOrder_plainTrees [c]
  | placeholder name => exact (means_placeholderTree n).inOrder
  | optional lead text trail =>
      exact (meanInOrder_maybeSpace lead).append
        ((means_maybeTree hwell.1).inOrder.append (meanInOrder_maybeSpace trail))
  | choice left right =>
      exact (Tree.means_group (Tree.means_alt (meanInOrder_plainTrees left).sequence
        (meanInOrder_plainTrees right).sequence)).inOrder

/-- The passage of an item accepts the pieces that the item stands for. -/
theorem Item.accepts_passage {item : Item} {n : Nat} {before piece after : List Char} :
    (item.passage n).Accepts before piece after ↔ item.Matches before piece after := by
  cases item with
  | char c => exact Passage.accepts_text
  | placeholder name => exact accepts_placeholderPassage
  | optional lead text trail =>
      simp only [Item.passage, Passage.accepts_andThen, maybePassage, Passage.accepts_either,
        Passage.accepts_nil, Passage.accepts_text, Item.Matches]
      constructor
      · intro h
        obtain ⟨front, _, rfl, hfront, middle, back, rfl, hmiddle, hback⟩ := h
        exact ⟨front, middle, back, rfl, hfront, hmiddle, hback⟩
      · intro h
        obtain ⟨front, middle, back, rfl, hfront, hmiddle, hback⟩ := h
        exact ⟨front, middle ++ back, rfl, hfront, middle, back, rfl, hmiddle, hback⟩
  | choice left right =>
      rw [Item.passage, Passage.accepts_either, Passage.accepts_text, Passage.accepts_text]
      rfl

/-- The passage of a row of items behind a number of groups. -/
def rowPassage : Nat → List Item → Passage
  | _, [] => .nil
  | n, item :: rest => (item.passage n).andThen (rowPassage (n + item.groupNames.length) rest)

/-- The trees of a row of items mean the passage of the row. -/
theorem meanInOrder_rowTrees {items : List Item} (hwell : ∀ i ∈ items, i.WellFormed) (n : Nat) :
    Tree.MeanInOrder (rowTrees n items) (rowPassage n items) := by
  induction items generalizing n with
  | nil => exact Tree.meanInOrder_nil
  | cons item rest ih =>
      exact (Item.meanInOrder_trees (hwell item List.mem_cons_self) n).append
        (ih (fun i hi => hwell i (List.mem_cons_of_mem item hi)) _)

theorem denotes_flatMap_source {items : List Item} (hwell : ∀ i ∈ items, i.WellFormed)
    (hdigit : ∀ name ∈ items.filterMap Item.name?, ∀ c ∈ name.head?, c.isDigit = false) (n : Nat) :
    Denotes (items.flatMap Item.source) n (items.flatMap Item.groupNames) 8
      (rowPassage n items) :=
  ⟨rowTrees n items, spells_flatMap_source hwell hdigit n, depth_rowTrees items n,
    meanInOrder_rowTrees hwell n⟩

/-- A row of items accepts a text that is made of their pieces. -/
theorem accepts_rowPassage {items : List Item} {n : Nat} {before text : List Char} :
    (rowPassage n items).Accepts before text [] ↔ Reads items before text := by
  induction items generalizing n before text with
  | nil => exact Passage.accepts_nil
  | cons item rest ih =>
      simp only [rowPassage, Passage.accepts_andThen, Item.accepts_passage, ih, List.append_nil,
        Reads]

/-- A pattern whose placeholders have different names, none of which begins with a digit,
has a matcher. Unless the matcher is degraded because of its size, it matches exactly the
texts that are made of one piece for each item of the pattern. -/
theorem isMatch_toRegex_iff_reads (pattern : String)
    (hnodup : (placeholderNames pattern.toList).Nodup)
    (hdigit : ∀ name ∈ placeholderNames pattern.toList, ∀ c ∈ name.head?, c.isDigit = false) :
    (Matcher.ofSourceWithin none (turnipNotation.toRegex pattern)).isDegraded = false ∧
      ∀ (limit : Option Nat) (text : String),
        (Matcher.ofSourceWithin limit (turnipNotation.toRegex pattern)).isMatch text = true ↔
          (Matcher.ofSourceWithin limit (turnipNotation.toRegex pattern)).isDegraded = false ∧
            Reads (items pattern.toList) [] text.toList := by
  rw [← filterMap_name?_items] at hnodup hdigit
  have hR := denotes_flatMap_source wellFormed_of_mem_items hdigit 0
  have hnames := distinct_groupNames hnodup wellFormed_of_mem_items
  constructor
  · rw [ofSourceWithin_toRegex]
    exact hR.isDegraded_wholeMatcher hnames (by decide)
  · intro limit text
    rw [ofSourceWithin_toRegex, hR.isMatch_wholeMatcher hnames (by decide),
      accepts_rowPassage]

/-- A pattern with a placeholder, an optional part and a choice. -/
def basketPattern : String :=
  "I have :count \"thing(s)\" in my basket/cart"

theorem isMatch_toRegex_basket :
    (placeholderNames basketPattern.toList).Nodup ∧
      (∀ name ∈ placeholderNames basketPattern.toList, ∀ c ∈ name.head?, c.isDigit = false) ∧
      (Matcher.ofSource (turnipNotation.toRegex basketPattern)).isDegraded = false ∧
      ∀ text : String,
        (Matcher.ofSource (turnipNotation.toRegex basketPattern)).isMatch text = true ↔
          Reads (items basketPattern.toList) [] text.toList := by
  have hnodup : (placeholderNames basketPattern.toList).Nodup := by decide
  have hdigit : ∀ name ∈ placeholderNames basketPattern.toList,
      ∀ c ∈ name.head?, c.isDigit = false := by
    have hheads : ∀ name ∈ placeholderNames basketPattern.toList,
        name.head?.all (fun c => !c.isDigit) = true := by
      decide
    intro name hname c hc
    have hhead := hheads name hname
    rw [Option.mem_def.mp hc] at hhead
    simpa using hhead
  have hsize : (Matcher.ofSource (turnipNotation.toRegex basketPattern)).isDegraded = false :=
    (isDegraded_within hnodup hdigit Regex.sizeLimit).1 (by decide)
  refine ⟨hnodup, hdigit, hsize, fun text => ?_⟩
  have hmatch := (isMatch_toRegex_iff_reads basketPattern hnodup hdigit).2
    (some Regex.sizeLimit) text
  exact hmatch.trans (and_iff_right hsize)

end Stepwise.Turnip
