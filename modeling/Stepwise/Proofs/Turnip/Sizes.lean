import Stepwise.Proofs.Pattern.Matching
import Stepwise.Proofs.Turnip.Trees

/-!
# Which turnip patterns are too large

A placeholder matches a word, and an automaton for the characters of words takes many bytes, so
that a pattern may be too large because of its placeholders alone. Main statements: within a
limit the matcher of a pattern is not degraded if its placeholders and its characters take few
enough bytes, and it is degraded if its placeholders take too many.
-/

namespace Stepwise.Turnip

open Regex

/-! Placeholders. -/

/-- The expression of characters of a set between quotes, which are remembered. -/
def enclosedExpression (quote : Char) (s : CharSet) (index : Nat) : Expression :=
  .cat (.literal [quote])
    (.cat (.group index (.repeated 1 none true (.set false s))) (.literal [quote]))

/-- The expression of characters of a set between two word boundaries, which are remembered. -/
def bareExpression (s : CharSet) (index : Nat) : Expression :=
  .cat (.look (.edge .boundary true))
    (.cat (.group index (.repeated 1 none true (.set false s))) (.look (.edge .boundary true)))

/-- The expression of a placeholder behind a number of groups, given the sets of characters that
its values may have. -/
def placeholderExpression (double single word : CharSet) (n : Nat) : Expression :=
  .alt (enclosedExpression '"' double (n + 1))
    (.alt (enclosedExpression '\'' single (n + 2)) (bareExpression word (n + 3)))

theorem resolve_placeholderTree (n : Nat) :
    (placeholderTree n).resolve {} =
      .ok ([placeholderExpression (Unicode.Ranges.compl (CharSet.single '"'))
        (Unicode.Ranges.compl (CharSet.single '\'')) Unicode.wordCharacters n], {}) :=
  rfl

/-- The bytes of the parts of a placeholder with a set of characters, at least and at most. -/
theorem bytes_enclosedExpression (quote : Char) (hquote : (octets quote.toNat).length = 1)
    (s : CharSet) (index : Nat) :
    (enclosedExpression quote s index).leastBytes = CharSet.leastBytes false s + 64 ∧
      (enclosedExpression quote s index).mostBytes = CharSet.mostBytes false s + 388 := by
  have hspelled : (spelled [quote]).length = 1 := by simp [spelled, hquote]
  simp only [enclosedExpression, Expression.leastBytes, Expression.mostBytes, hspelled, mostTimes,
    Nat.max_self, Expression.octetBytes, repeatBytes, stateBytes, linkBytes, arcBytes]
  constructor
  · omega
  · omega

theorem bytes_bareExpression (s : CharSet) (index : Nat) :
    (bareExpression s index).leastBytes = CharSet.leastBytes false s + 64 ∧
      (bareExpression s index).mostBytes = CharSet.mostBytes false s + 300 := by
  simp only [bareExpression, Expression.leastBytes, Expression.mostBytes, mostTimes,
    Nat.max_self, repeatBytes, stateBytes, linkBytes]
  constructor
  · omega
  · omega

theorem bytes_placeholderExpression (double single word : CharSet) (n : Nat) :
    (placeholderExpression double single word n).leastBytes =
      CharSet.leastBytes false double + CharSet.leastBytes false single +
        CharSet.leastBytes false word + 192 ∧
      (placeholderExpression double single word n).mostBytes =
        CharSet.mostBytes false double + CharSet.mostBytes false single +
          CharSet.mostBytes false word + 1228 := by
  obtain ⟨hdouble, hdouble'⟩ := bytes_enclosedExpression '"' (by decide) double (n + 1)
  obtain ⟨hsingle, hsingle'⟩ :=
    bytes_enclosedExpression '\'' (by decide) single (n + 2)
  obtain ⟨hword, hword'⟩ := bytes_bareExpression word (n + 3)
  have hbranches (left right : Expression) (h : (left.alt right).words? = none) :
      (left.alt right).leastBytes = left.leastBytes + right.leastBytes := by
    rw [Expression.leastBytes, h]
    rfl
  constructor
  · rw [placeholderExpression, hbranches _ _ rfl, hbranches _ _ rfl]
    omega
  · rw [placeholderExpression, Expression.mostBytes, Expression.mostBytes, choiceBytes, stateBytes,
      linkBytes]
    omega

def leastPlaceholderBytes : Nat := 52028

def mostPlaceholderBytes : Nat := 143240

/-- The beginnings of the forms of word characters have ascending numbers. -/
theorem wordCharacters_sequences :
    (frontCodes (CharSet.sequences Unicode.wordCharacters)).IsChain (· < ·) ∧
      (frontCodes (CharSet.sequences Unicode.wordCharacters)).length = 1431 ∧
        (CharSet.sequences Unicode.wordCharacters).length = 995 ∧
          Unicode.wordCharacters.all (·.2 < 0x80) = false := by
  decide +kernel

theorem le_leastBytes_wordCharacters :
    49836 ≤ CharSet.leastBytes false Unicode.wordCharacters := by
  obtain ⟨hchain, hcodes, hsequences, hall⟩ := wordCharacters_sequences
  have hfronts := length_frontCodes_le hchain
  rw [hcodes] at hfronts
  rw [CharSet.leastBytes, hall, hsequences, if_neg (by decide), stateBytes, linkBytes]
  omega

theorem mostBytes_wordCharacters : CharSet.mostBytes false Unicode.wordCharacters = 139564 := by
  decide +kernel

theorem weighs_placeholderTree (n : Nat) :
    (placeholderTree n).Weighs leastPlaceholderBytes mostPlaceholderBytes := by
  obtain ⟨hdouble, hdouble'⟩ := CharSet.bytes_compl_single (Or.inl rfl)
  obtain ⟨hsingle, hsingle'⟩ := CharSet.bytes_compl_single (Or.inr rfl)
  have hword := le_leastBytes_wordCharacters
  refine ⟨_, resolve_placeholderTree n, ?_, ?_⟩
  · rw [(bytes_placeholderExpression _ _ _ n).1, hdouble, hsingle, leastPlaceholderBytes]
    omega
  · rw [(bytes_placeholderExpression _ _ _ n).2, hdouble', hsingle', mostBytes_wordCharacters,
      mostPlaceholderBytes]

/-! Other items. -/

/-- The bytes that a character of a pattern takes at most, if it is not in a placeholder. -/
def letterBytes : Nat := 512

theorem weighs_maybeTree {cs : List Char} (hne : cs ≠ []) :
    (maybeTree cs).Weighs 0 (cs.length * Expression.characterBytes + 160) := by
  have hresolve : (maybeTree cs).resolve {} =
      .ok ([(Expression.literal cs).times 0 (some 1) true], {}) := by
    simp only [maybeTree, Tree.resolve, Tree.resolve_sequence_plainTrees hne, Flags.apply,
      List.foldl_nil, pure, bind, Except.bind, Except.pure, Expression.choice]
    rfl
  have hletters := Expression.mostBytes_literal_le cs
  refine ⟨_, hresolve, Nat.zero_le _, ?_⟩
  change mostTimes 0 (some 1) * ((Expression.literal cs).mostBytes + (stateBytes + 2 * linkBytes)) +
    repeatBytes ≤ _
  simp only [mostTimes, Nat.zero_max, Nat.one_mul, repeatBytes, stateBytes, linkBytes]
    at hletters ⊢
  omega

theorem weighs_choiceTree {left right : List Char} (hleft : left ≠ []) (hright : right ≠ []) :
    (Tree.group [] (Tree.choice
      [Tree.sequence (plainTrees left), Tree.sequence (plainTrees right)])).Weighs 0
      ((left.length + right.length) * Expression.characterBytes + 84) := by
  have hresolve : (Tree.group [] (Tree.choice
      [Tree.sequence (plainTrees left), Tree.sequence (plainTrees right)])).resolve {} =
      .ok ([.choice [.literal left, .literal right]], {}) := by
    simp only [Tree.choice, Tree.resolve, Tree.resolve_sequence_plainTrees hleft,
      Tree.resolve_sequence_plainTrees hright, Flags.apply,
      List.foldl_nil, pure, bind, Except.bind, Except.pure]
    rfl
  exact ⟨_, hresolve, Nat.zero_le _, Expression.mostBytes_choice_le⟩

theorem weighInOrder_maybeSpace (lead : Option Char) :
    Tree.WeighInOrder (lead.toList.map (maybeTree [·])) 0 (lead.toList.length * letterBytes) := by
  cases lead with
  | none => exact Tree.weighInOrder_nil
  | some c =>
      refine (weighs_maybeTree (List.cons_ne_nil c [])).inOrder.mono ?_
      have hcharacter : Expression.characterBytes = 304 := rfl
      rw [Option.toList_some, List.length_singleton, hcharacter, letterBytes]
      decide

/-- An item other than a placeholder takes no more bytes than its characters may. -/
theorem Item.weighInOrder_text {item : Item} (hname : item.name? = none) (hwell : item.WellFormed)
    (n : Nat) : Tree.WeighInOrder (item.trees n) 0 (item.text.length * letterBytes) := by
  have hcharacter : Expression.characterBytes = 304 := rfl
  cases item with
  | char c =>
      refine (Tree.weighInOrder_plainTrees [c]).mono ?_
      rw [Item.text, List.length_singleton, hcharacter, letterBytes, linkBytes]
      decide
  | placeholder name => exact absurd hname (by simp [Item.name?])
  | optional lead text trail =>
      have htext := (weighs_maybeTree hwell.1).inOrder
      refine ((weighInOrder_maybeSpace lead).append
        (htext.append (weighInOrder_maybeSpace trail))).mono ?_
      simp only [Item.text, List.length_append, List.length_cons, hcharacter, letterBytes]
      omega
  | choice left right =>
      refine (weighs_choiceTree hwell.1.1 hwell.2.1).inOrder.mono ?_
      simp only [Item.text, List.length_append, List.length_cons, hcharacter, letterBytes]
      omega

/-- The bytes of the trees of a row of items. -/
theorem weighInOrder_rowTrees {items : List Item} (hwell : ∀ i ∈ items, i.WellFormed) (n : Nat) :
    Tree.WeighInOrder (rowTrees n items)
      ((items.filterMap Item.name?).length * leastPlaceholderBytes)
      ((items.filterMap Item.name?).length * mostPlaceholderBytes +
        (items.flatMap Item.text).length * letterBytes) := by
  induction items generalizing n with
  | nil =>
      rw [List.filterMap_nil, List.flatMap_nil, List.length_nil, List.length_nil, Nat.zero_mul,
        Nat.zero_mul, Nat.zero_mul]
      exact Tree.weighInOrder_nil
  | cons item rest ih =>
      have hrest := ih (fun i hi => hwell i (List.mem_cons_of_mem item hi))
        (n + item.groupNames.length)
      rw [rowTrees, List.flatMap_cons, List.length_append, Nat.add_mul]
      cases hname : item.name? with
      | none =>
          have hitem := Item.weighInOrder_text hname (hwell item List.mem_cons_self) n
          rw [List.filterMap_cons_none hname]
          have hall := hitem.append hrest
          rw [Nat.zero_add] at hall
          exact hall.mono (by omega)
      | some name =>
          obtain rfl := eq_placeholder_of_name? hname
          rw [List.filterMap_cons_some hname, List.length_cons, Nat.succ_mul, Nat.succ_mul,
            Nat.add_comm (_ * leastPlaceholderBytes)]
          exact ((weighs_placeholderTree n).inOrder.append hrest).mono (by omega)

/-- The matcher of a pattern has to match the expressions of its items in a row. -/
theorem ofSourceWithin_toRegex (pattern : String) (limit : Option Nat) :
    Matcher.ofSourceWithin limit (turnipNotation.toRegex pattern) =
      wholeMatcher limit ((items pattern.toList).flatMap Item.source) := by
  simp only [wholeMatcher, turnipNotation, turnipNotationBy, toRegex_eq_source]

/-- The bytes that the expression of a pattern takes at most: those of its placeholders, of its
characters, and of what stands around them. -/
def patternBytes (pattern : String) : Nat :=
  (placeholderNames pattern.toList).length * mostPlaceholderBytes + pattern.length * letterBytes +
    512

/-- Within a limit the matcher of a pattern is not degraded if the bytes of its placeholders and
of its characters are within the limit, and it is degraded if its placeholders take more. -/
theorem isDegraded_within {pattern : String} (hnodup : (placeholderNames pattern.toList).Nodup)
    (hdigit : ∀ name ∈ placeholderNames pattern.toList, ∀ c ∈ name.head?, c.isDigit = false)
    (limit : Nat) :
    (patternBytes pattern ≤ limit →
      (Matcher.ofSourceWithin (some limit) (turnipNotation.toRegex pattern)).isDegraded = false) ∧
      (limit < (placeholderNames pattern.toList).length * leastPlaceholderBytes →
        (Matcher.ofSourceWithin (some limit) (turnipNotation.toRegex pattern)).isDegraded =
          true) := by
  have hwell : ∀ i ∈ items pattern.toList, i.WellFormed := wellFormed_of_mem_items
  have hweigh := weighInOrder_rowTrees hwell 0
  rw [filterMap_name?_items, flatMap_text_items, String.length_toList] at hweigh
  rw [← filterMap_name?_items] at hnodup hdigit
  have hnames := distinct_groupNames hnodup hwell
  have hdepth : ∀ t ∈ rowTrees 0 (items pattern.toList), t.depth .none < depthLimit :=
    fun t ht => Nat.lt_of_le_of_lt (depth_rowTrees _ _ t ht) (by decide)
  obtain ⟨hfits, htooLarge⟩ := (spells_flatMap_source hwell hdigit
    0).isDegraded_wholeMatcher hnames hdepth hweigh limit
  rw [ofSourceWithin_toRegex]
  exact ⟨fun h => hfits (Nat.le_trans (Nat.add_le_add_left (by decide) _) h), htooLarge⟩

end Stepwise.Turnip
