import Stepwise.Proofs.Turnip.Generation

/-!
# Rendered turnip patterns

A pattern is rendered by writing a value in the place of each placeholder. Main statement: a text
that a pattern matches has one value for each placeholder as its arguments, and for a pattern of
placeholders and characters only, rendering it and taking the arguments of a text undo each other.
-/

namespace Stepwise.Turnip

open Step

/-- A row of items with values in the places of its placeholders. Everything else is as it is
written. -/
def render : List Item → List (Quoting × List Char) → List Char
  | [], _ => []
  | .placeholder _ :: row, (quoting, value) :: values => quoting.written value ++ render row values
  | item :: row, values => item.text ++ render row values

/-- There is one value for each placeholder in a row behind a text, and each of them may be
written where it stands in the rendered row. -/
def Renders (before : List Char) : List Item → List (Quoting × List Char) → Prop
  | [], values => values = []
  | .placeholder _ :: _, [] => False
  | .placeholder _ :: row, (quoting, value) :: values =>
      quoting.Allows before value (render row values) ∧
        Renders (before ++ quoting.written value) row values
  | .char c :: row, values => Renders (before ++ [c]) row values
  | .optional lead text trail :: row, values =>
      Renders (before ++ (Item.optional lead text trail).text) row values
  | .choice left right :: row, values =>
      Renders (before ++ (Item.choice left right).text) row values

instance (quoting : Quoting) (before value after : List Char) :
    Decidable (quoting.Allows before value after) :=
  match quoting with
  | .double => inferInstanceAs (Decidable (value ≠ [] ∧ '"' ∉ value))
  | .single => inferInstanceAs (Decidable (value ≠ [] ∧ '\'' ∉ value))
  | .bare =>
      have := List.decidableBAll (fun c => Unicode.isWord c = true) value
      inferInstanceAs (Decidable (value ≠ [] ∧ (∀ c ∈ value, Unicode.isWord c = true) ∧
        before.getLast?.any Unicode.isWord = false ∧ after.head?.any Unicode.isWord = false))

instance Renders.decidable (before : List Char) :
    (row : List Item) → (values : List (Quoting × List Char)) →
      Decidable (Renders before row values)
  | [], values => inferInstanceAs (Decidable (values = []))
  | .placeholder _ :: _, [] => inferInstanceAs (Decidable False)
  | .placeholder _ :: row, (quoting, value) :: values =>
      have := Renders.decidable (before ++ quoting.written value) row values
      inferInstanceAs (Decidable (quoting.Allows before value (render row values) ∧
        Renders (before ++ quoting.written value) row values))
  | .char c :: row, values => Renders.decidable (before ++ [c]) row values
  | .optional lead text trail :: row, values =>
      Renders.decidable (before ++ (Item.optional lead text trail).text) row values
  | .choice left right :: row, values =>
      Renders.decidable (before ++ (Item.choice left right).text) row values

variable {before text : List Char} {row : List Item} {values : List (Quoting × List Char)}

/-- A row of placeholders and characters is read as what it is rendered to. -/
theorem readsAs_iff_renders (hstrict : ∀ i ∈ row, i.IsStrict) :
    ReadsAs row before text values ↔ Renders before row values ∧ text = render row values := by
  constructor
  · intro h
    induction h with
    | nil => exact ⟨rfl, rfl⟩
    | placeholder allowed others ih =>
        obtain ⟨hrenders, rfl⟩ := ih fun i hi => hstrict i (List.mem_cons_of_mem _ hi)
        exact ⟨⟨allowed, hrenders⟩, rfl⟩
    | @silent item before piece after rest values hname hpiece others ih =>
        obtain ⟨hrenders, rfl⟩ := ih fun i hi => hstrict i (List.mem_cons_of_mem _ hi)
        have hitem := hstrict item List.mem_cons_self
        cases item with
        | char c =>
            obtain rfl : piece = [c] := hpiece
            exact ⟨hrenders, rfl⟩
        | placeholder name => exact absurd hname (by simp [Item.name?])
        | optional lead text trail => exact hitem.elim
        | choice left right => exact hitem.elim
  · rintro ⟨h, rfl⟩
    induction row generalizing before values with
    | nil =>
        obtain rfl : values = [] := h
        exact .nil
    | cons item row ih =>
        have hrow : ∀ i ∈ row, i.IsStrict := fun i hi => hstrict i (List.mem_cons_of_mem item hi)
        have hitem := hstrict item List.mem_cons_self
        cases item with
        | char c =>
            have hpiece : (Item.char c).Matches before [c] (render row values) := rfl
            exact .silent rfl hpiece (ih hrow h)
        | placeholder name =>
            cases values with
            | nil => exact h.elim
            | cons first values => exact .placeholder h.1 (ih hrow h.2)
        | optional lead text trail => exact hitem.elim
        | choice left right => exact hitem.elim

/-- The values in a text are not empty. -/
theorem ReadsAs.value_ne_nil (h : ReadsAs row before text values) :
    ∀ value ∈ values, value.2 ≠ [] := by
  induction h with
  | nil => simp
  | placeholder allowed others ih => exact List.forall_mem_cons.mpr ⟨allowed.1, ih⟩
  | silent hname hpiece others ih => exact ih

/-- Without parentheses and slashes a pattern has placeholders and characters only. -/
theorem isStrict_of_mem_items {pattern : List Char} (hoptional : '(' ∉ pattern)
    (hchoice : '/' ∉ pattern) : ∀ i ∈ items pattern, i.IsStrict := by
  have hrow : ∀ i ∈ placeholderItem.takeAll (pattern.map .char),
      i.IsStrict ∧ ∀ c, i = .char c → c ∈ pattern := by
    refine ItemRule.Makes.forall_takeAll ?_ ?_
    · intro item rest made after h
      obtain ⟨⟨-, name, rfl⟩, hafter⟩ := placeholderItem_makes h
      exact ⟨⟨trivial, nofun⟩, hafter⟩
    · intro i hi
      obtain ⟨c, hc, rfl⟩ := List.mem_map.mp hi
      exact ⟨trivial, fun d hd => Item.char.inj hd ▸ hc⟩
  rw [items, takeAll_choice_optional]
  · exact fun i hi => (hrow i hi).1
  · exact fun hmem => hoptional ((hrow _ hmem).2 _ rfl)
  · exact fun hmem => hchoice ((hrow _ hmem).2 _ rfl)

/-- A pattern whose placeholders have different names, none of which begins with a digit, has a
matcher, which is not degraded within the bytes of the pattern. The arguments of a text that it
matches are one value for each placeholder, in their order, and none of them is empty. If the
pattern has no parentheses and no slashes, such a text is the pattern with its arguments in the
places of the placeholders, in some way of quoting them; and unless the matcher is degraded because
of its size, the pattern with any values in these places is matched, and has these values as its
arguments. -/
theorem arguments?_render (pattern : String)
    (hnodup : (placeholderNames pattern.toList).Nodup)
    (hdigit : ∀ name ∈ placeholderNames pattern.toList, ∀ c ∈ name.head?, c.isDigit = false) :
    (Matcher.ofSourceWithin none (turnipNotation.toRegex pattern)).isDegraded = false ∧
      (∀ limit, patternBytes pattern ≤ limit →
        (Matcher.ofSourceWithin (some limit) (turnipNotation.toRegex pattern)).isDegraded =
          false) ∧
      ∀ limit : Option Nat,
        let m := Matcher.ofSourceWithin limit (turnipNotation.toRegex pattern)
        let names := placeholderNames pattern.toList
        let row := items pattern.toList
        (∀ text, m.isMatch text = true →
          ∃ arguments, m.arguments? text = some arguments ∧
            arguments.map (·.1) = names.map String.ofList ∧
              ∀ argument ∈ arguments, argument.2 ≠ "") ∧
        ('(' ∉ pattern.toList → '/' ∉ pattern.toList →
          (m.isDegraded = false → ∀ values, Renders [] row values →
            m.isMatch (String.ofList (render row values)) = true ∧
              m.arguments? (String.ofList (render row values)) = some (bindings names values)) ∧
          ∀ text, m.isMatch text = true →
            ∃ values, Renders [] row values ∧ text = String.ofList (render row values) ∧
              m.arguments? text = some (bindings names values)) := by
  refine ⟨isDegraded_toRegex hnodup hdigit,
    fun limit => (isDegraded_within hnodup hdigit limit).1, fun limit => ?_⟩
  intro m names row
  have hfound {text : String} (hmatch : m.isMatch text = true) :
      ∃ values, ReadsAs row [] text.toList values ∧
        m.arguments? text = some (bindings names values) :=
    arguments?_of_isMatch hnodup hdigit hmatch
  refine ⟨fun text hmatch => ?_, fun hoptional hchoice => ⟨fun hdegraded values h => ?_, ?_⟩⟩
  · obtain ⟨values, hreads, harguments⟩ := hfound hmatch
    have hlength : values.length = names.length := by
      rw [hreads.length_eq, filterMap_name?_items]
    refine ⟨bindings names values, harguments, map_fst_bindings hlength, ?_⟩
    intro argument hargument
    obtain ⟨⟨name, value⟩, hmem, rfl⟩ := List.mem_map.mp hargument
    have hvalue := hreads.value_ne_nil value (List.of_mem_zip hmem).2
    simpa [String.ext_iff] using hvalue
  · have hstrict := isStrict_of_mem_items hoptional hchoice
    have hreads : ReadsAs row [] (String.ofList (render row values)).toList values := by
      rw [String.toList_ofList]
      exact (readsAs_iff_renders hstrict).mpr ⟨h, rfl⟩
    have hmatch : m.isMatch (String.ofList (render row values)) = true :=
      isMatch_of_readsAs hnodup hdigit hdegraded hreads
    obtain ⟨found, hother, harguments⟩ := hfound hmatch
    exact ⟨hmatch, hother.unique hstrict hreads ▸ harguments⟩
  · intro text hmatch
    have hstrict := isStrict_of_mem_items hoptional hchoice
    obtain ⟨values, hreads, harguments⟩ := hfound hmatch
    obtain ⟨hrenders, htext⟩ := (readsAs_iff_renders hstrict).mp hreads
    exact ⟨values, hrenders, by rw [← htext, String.ofList_toList], harguments⟩

/-- A pattern with quotes of its own around a placeholder, and a placeholder before an
apostrophe. -/
def giftPattern : String :=
  ":who's gift is \":what\" for :price"

theorem items_giftPattern :
    items giftPattern.toList =
      .placeholder "who".toList :: ("'s gift is \"".toList.map .char ++
        .placeholder "what".toList :: ("\" for ".toList.map .char ++
          [.placeholder "price".toList])) := by
  decide +kernel

/-- Values for the pattern, in all ways of quoting. -/
def giftValues : List (Quoting × List Char) :=
  [(.bare, "Bob".toList), (.single, "a \"red\" car".toList), (.double, "5'000".toList)]

theorem arguments?_render_gift :
    let m := Matcher.ofSource (turnipNotation.toRegex giftPattern)
    let text := "Bob's gift is \"'a \"red\" car'\" for \"5'000\""
    (placeholderNames giftPattern.toList).Nodup ∧
      (∀ name ∈ placeholderNames giftPattern.toList, ∀ c ∈ name.head?, c.isDigit = false) ∧
      '(' ∉ giftPattern.toList ∧ '/' ∉ giftPattern.toList ∧ m.isDegraded = false ∧
      Renders [] (items giftPattern.toList) giftValues ∧
      String.ofList (render (items giftPattern.toList) giftValues) = text ∧
      m.isMatch text = true ∧
      m.arguments? text = some [("who", "Bob"), ("what", "a \"red\" car"), ("price", "5'000")] := by
  intro m text
  have hnames : placeholderNames giftPattern.toList =
      ["who".toList, "what".toList, "price".toList] := by
    decide
  have hnodup : (placeholderNames giftPattern.toList).Nodup := by
    rw [hnames]
    decide
  have hdigit : ∀ name ∈ placeholderNames giftPattern.toList,
      ∀ c ∈ name.head?, c.isDigit = false := by
    rw [hnames]
    simp
  have hrenders : Renders [] (items giftPattern.toList) giftValues := by
    rw [items_giftPattern]
    decide
  have htext : String.ofList (render (items giftPattern.toList) giftValues) = text := by
    rw [items_giftPattern]
    decide
  obtain ⟨-, hsize, hall⟩ := arguments?_render giftPattern hnodup hdigit
  have hdegraded : m.isDegraded = false := by
    refine hsize Regex.sizeLimit ?_
    rw [patternBytes, hnames]
    decide
  obtain ⟨hmatch, harguments⟩ :=
    ((hall (some Regex.sizeLimit)).2 (by decide) (by decide)).1 hdegraded giftValues hrenders
  rw [htext, hnames] at harguments
  rw [htext] at hmatch
  exact ⟨hnodup, hdigit, by decide, by decide, hdegraded, hrenders, htext, hmatch, harguments⟩

/-! A pattern that is too large. -/

/-- The tokens of ones in a row, with a blank behind each of them, numbered from `first` on. -/
def rollTokens (first : Nat) : Nat → List Token
  | 0 => []
  | n + 1 => .literal .integer ['1'] first :: .text [' '] :: rollTokens (first + 1) n

/-- The pattern `:arg1 :arg2 ` and so on, with a number of placeholders. -/
def rollPattern (n : Nat) : String :=
  String.ofList ((rollTokens 1 n).flatMap sourceOf)

theorem eq_of_text_mem_rollTokens {chars : List Char} {first n : Nat}
    (h : Token.text chars ∈ rollTokens first n) : chars = [' '] := by
  induction n generalizing first with
  | zero => simp [rollTokens] at h
  | succ n ih =>
      simp only [rollTokens, List.mem_cons, reduceCtorEq, Token.text.injEq, false_or] at h
      exact h.elim id ih

theorem apart_rollTokens (kind : LiteralKind) (first n : Nat) :
    Apart kind (rollTokens first n) := by
  induction n generalizing first with
  | zero => trivial
  | succ n ih => exact ⟨fun _ => rfl, ih (first + 1)⟩

theorem filterMap_index?_rollTokens (first n : Nat) :
    (rollTokens first n).filterMap Token.index? = List.range' first n := by
  induction n generalizing first with
  | zero => rfl
  | succ n ih => exact congrArg (first :: ·) (ih (first + 1))

theorem items_rollPattern (n : Nat) :
    items (rollPattern n).toList = (rollTokens 1 n).flatMap itemsOf := by
  rw [rollPattern, String.toList_ofList]
  refine items_flatMap_sourceOf (fun chars hchars c hc => ?_) fun kind => apart_rollTokens kind 1 n
  rw [eq_of_text_mem_rollTokens hchars] at hc
  rw [List.mem_singleton.mp hc]
  decide

theorem placeholderNames_rollPattern (n : Nat) :
    placeholderNames (rollPattern n).toList = (List.range' 1 n).map argumentName := by
  rw [← filterMap_name?_items, items_rollPattern, filterMap_name?_itemsOf,
    filterMap_index?_rollTokens]

theorem renders_rollTokens {before : List Char}
    (hbefore : before.getLast?.any Unicode.isWord = false) (first n : Nat) :
    Renders before ((rollTokens first n).flatMap itemsOf) (List.replicate n (.bare, ['1'])) := by
  induction n generalizing before first with
  | zero => rfl
  | succ n ih =>
      have hrest : Renders (before ++ ['1'] ++ [' ']) ((rollTokens (first + 1) n).flatMap itemsOf)
          (List.replicate n (.bare, ['1'])) :=
        ih (by rw [List.getLast?_append]; rfl) (first + 1)
      have hword : ∀ c ∈ ['1'], Unicode.isWord c = true :=
        List.forall_mem_singleton.mpr (isWord_of_isNameCharacter (by decide))
      exact ⟨⟨List.cons_ne_nil _ _, hword, hbefore, rfl⟩, hrest⟩

theorem eq_or_isNameCharacter_of_mem_rollPattern {c : Char} {n : Nat}
    (h : c ∈ (rollPattern n).toList) : c = ':' ∨ c = ' ' ∨ isNameCharacter c = true := by
  rw [rollPattern, String.toList_ofList] at h
  obtain ⟨t, ht, hc⟩ := List.mem_flatMap.mp h
  cases t with
  | text chars =>
      rw [eq_of_text_mem_rollTokens ht] at hc
      exact Or.inr (Or.inl (List.mem_singleton.mp hc))
  | literal kind chars index =>
      rcases List.mem_cons.mp hc with rfl | hc
      · exact Or.inl rfl
      · exact Or.inr (Or.inr (isNameCharacter_of_mem_argumentName c hc))

/-- The regular expression of a pattern with 300 placeholders is too large, so that the values in
their places are not matched. -/
theorem isMatch_render_roll :
    let pattern := rollPattern 300
    let values := List.replicate 300 (Quoting.bare, ['1'])
    (placeholderNames pattern.toList).Nodup ∧
      (∀ name ∈ placeholderNames pattern.toList, ∀ c ∈ name.head?, c.isDigit = false) ∧
      '(' ∉ pattern.toList ∧ '/' ∉ pattern.toList ∧ Renders [] (items pattern.toList) values ∧
      (Matcher.ofSource (turnipNotation.toRegex pattern)).isMatch
        (String.ofList (render (items pattern.toList) values)) = false := by
  intro pattern values
  have hnodup : (placeholderNames pattern.toList).Nodup := by
    rw [placeholderNames_rollPattern]
    have hindices : (List.range' 1 300).Nodup := List.nodup_range' _ Nat.one_pos
    exact hindices.map fun _ _ => argumentName_injective
  have hdigit : ∀ name ∈ placeholderNames pattern.toList, ∀ c ∈ name.head?, c.isDigit = false := by
    rw [placeholderNames_rollPattern]
    intro name hname c hc
    obtain ⟨index, -, rfl⟩ := List.mem_map.mp hname
    obtain rfl : 'a' = c := Option.some.inj hc
    rfl
  have hmarker {c : Char} (hc : ¬(c = ':' ∨ c = ' ' ∨ isNameCharacter c = true)) :
      c ∉ pattern.toList :=
    fun hmem => hc (eq_or_isNameCharacter_of_mem_rollPattern hmem)
  have hrenders : Renders [] (items pattern.toList) values := by
    rw [items_rollPattern]
    exact renders_rollTokens rfl 1 300
  have hdegraded : (Matcher.ofSource (turnipNotation.toRegex pattern)).isDegraded = true := by
    refine (isDegraded_within hnodup hdigit Regex.sizeLimit).2 ?_
    rw [placeholderNames_rollPattern, List.length_map, List.length_range']
    decide
  refine ⟨hnodup, hdigit, hmarker (by decide), hmarker (by decide), hrenders, ?_⟩
  rw [Matcher.isMatch, Option.isNone_iff_eq_none.mp hdegraded]
  rfl

end Stepwise.Turnip
