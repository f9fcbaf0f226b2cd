import Stepwise.Proofs.Step.Tokens
import Stepwise.Proofs.Turnip.Arguments

/-!
# Generated turnip patterns

A step text becomes a pattern in which each literal is a placeholder. Main statement: unless the
text between the literals means something in a pattern, or goes on with a word behind a number,
the pattern matches the text, and its arguments are the values of the literals.
-/

namespace Stepwise.Turnip

open Step

def itemsOf : Token → List Item
  | .text chars => chars.map .char
  | .literal _ _ index => [.placeholder (argumentName index)]

/-- The characters that the parts of a pattern are recognised by. -/
def markers : List Char :=
  [':', '(', '/']

/-! The names of the placeholders. -/

theorem ofList_argumentName (index : Nat) :
    String.ofList (argumentName index) = "arg" ++ toString index := by
  rw [argumentName, Nat.toString_eq_ofList_toDigits, String.ofList_append, String.ofList_toList]

theorem argumentName_injective {i j : Nat} (h : argumentName i = argumentName j) : i = j := by
  apply Matcher.toString_injective
  rw [Nat.toString_eq_ofList_toDigits, Nat.toString_eq_ofList_toDigits,
    List.append_cancel_left h]

theorem argumentName_ne_nil (index : Nat) : argumentName index ≠ [] :=
  List.cons_ne_nil 'a' _

theorem isNameCharacter_of_mem_argumentName {index : Nat} :
    ∀ c ∈ argumentName index, isNameCharacter c = true := by
  have hletters : ∀ c ∈ "arg".toList, isNameCharacter c = true :=
    List.all_iff_forall_prop.mp (by decide)
  intro c hc
  rcases List.mem_append.mp hc with hletter | hdigit
  · exact hletters c hletter
  · have hc : c.isDigit = true := Nat.isDigit_of_mem_toDigits (by decide) (by decide) hdigit
    rw [isNameCharacter, Char.isAlphanum, hc, Bool.or_true, Bool.true_or]

theorem isWord_of_isNameCharacter {c : Char} (h : isNameCharacter c = true) :
    Unicode.isWord c = true := by
  have hword {p : Nat × Nat} (hp : p ∈ Unicode.wordCharacters)
      (hc : p.1 ≤ c.toNat ∧ c.toNat ≤ p.2) : Unicode.isWord c = true :=
    (Unicode.tidy_wordCharacters.has_iff c).mpr ⟨p, hp, hc⟩
  rcases Bool.or_eq_true_iff.mp h with halnum | hlow
  · rcases Bool.or_eq_true_iff.mp halnum with halpha | hdigit
    · rcases Unicode.toNat_of_isAlpha halpha with hupper | hlower
      · exact hword (p := (0x41, 0x5a)) (by decide) hupper
      · exact hword (p := (0x61, 0x7a)) (by decide) hlower
    · exact Unicode.isWord_of_has_decimalNumber (Unicode.has_decimalNumber_of_isDigit hdigit)
  · rw [of_decide_eq_true hlow]
    decide

theorem isSpace_of_isNameCharacter {c : Char} (h : isNameCharacter c = true) :
    Unicode.isSpace c = false := by
  by_contra hspace
  rw [Bool.not_eq_false] at hspace
  have hword := isWord_of_isNameCharacter h
  rw [Unicode.isWord_of_isSpace hspace] at hword
  exact Bool.noConfusion hword

/-! The items of a generated pattern. -/

/-- Without what they take, rules leave a row of items as it is. -/
theorem ItemRule.takeAll_eq_self {rule : ItemRule} {row : List Item}
    (h : ∀ suffix, suffix <:+ row → rule suffix = none) : rule.takeAll row = row := by
  fun_induction ItemRule.takeAll rule row with
  | case1 => rfl
  | case2 item rest hnone ih =>
      rw [ih fun suffix hsuffix => h suffix (hsuffix.trans (List.suffix_cons _ _))]
  | case3 item rest made after hsome hle ih =>
      rw [h _ List.suffix_rfl] at hsome
      exact absurd hsome (by simp)
  | case4 item rest made after hsome hlt ih =>
      rw [h _ List.suffix_rfl] at hsome
      exact absurd hsome (by simp)

theorem optionalItem_eq_none {row : List Item} (h : Item.char '(' ∉ row) :
    optionalItem row = none := by
  cases row with
  | nil => rfl
  | cons item rest =>
      cases hsome : optionalItem (item :: rest) with
      | none => rfl
      | some found =>
          exfalso
          obtain ⟨lead, text, between, -, hcases⟩ := eq_of_optionalItem (Prod.eta found ▸ hsome)
          rcases hcases with ⟨c, rfl, -, -, hpar⟩ | ⟨-, hpar⟩
          · obtain ⟨inner, rfl, -⟩ := eq_of_parenthesized? hpar
            exact h (List.mem_cons_of_mem _ List.mem_cons_self)
          · obtain ⟨inner, heq, -⟩ := eq_of_parenthesized? hpar
            exact h (heq ▸ List.mem_cons_self)

theorem choiceItem_eq_none {row : List Item} (h : Item.char '/' ∉ row) :
    choiceItem row = none := by
  cases hsome : choiceItem row with
  | none => rfl
  | some found =>
      exfalso
      obtain ⟨left, right, rest, -, -, hspan, -⟩ := eq_of_choiceItem (Prod.eta found ▸ hsome)
      have hsuffix := spanChars_suffix Unicode.isWord row
      rw [hspan] at hsuffix
      exact h (hsuffix.subset List.mem_cons_self)

/-- Without parentheses and slashes there are no optional parts and no choices. -/
theorem takeAll_choice_optional {row : List Item} (hoptional : Item.char '(' ∉ row)
    (hchoice : Item.char '/' ∉ row) : choiceItem.takeAll (optionalItem.takeAll row) = row := by
  have hfirst : optionalItem.takeAll row = row :=
    ItemRule.takeAll_eq_self fun suffix hsuffix =>
      optionalItem_eq_none fun hmem => hoptional (hsuffix.subset hmem)
  rw [hfirst]
  exact ItemRule.takeAll_eq_self fun suffix hsuffix =>
    choiceItem_eq_none fun hmem => hchoice (hsuffix.subset hmem)

theorem takeAll_text {front : List Char} (h : ':' ∉ front) (back : List Char) :
    placeholderItem.takeAll ((front ++ back).map .char) =
      front.map .char ++ placeholderItem.takeAll (back.map .char) := by
  induction front with
  | nil => rfl
  | cons c front ih =>
      rw [List.mem_cons, not_or] at h
      rw [List.cons_append, List.map_cons, ItemRule.takeAll, placeholderItem_map_char,
        if_neg fun hc => h.1 hc.1.symm]
      simp only [ih h.2, List.map_cons, List.cons_append]

theorem takeAll_placeholder {name back : List Char} (hne : name ≠ [])
    (hall : ∀ c ∈ name, isNameCharacter c = true)
    (hback : back.head?.any isNameCharacter = false) :
    placeholderItem.takeAll ((':' :: name ++ back).map .char) =
      .placeholder name :: placeholderItem.takeAll (back.map .char) := by
  have htake : (name ++ back).takeWhile isNameCharacter = name := by
    rw [List.takeWhile_append_of_pos hall, takeWhile_eq_nil hback, List.append_nil]
  have hdrop : (name ++ back).dropWhile isNameCharacter = back := by
    have hboth := List.takeWhile_append_dropWhile (p := isNameCharacter) (l := name ++ back)
    rw [htake] at hboth
    exact List.append_cancel_left hboth
  have hlength : (back.map Item.char).length ≤ ((name ++ back).map Item.char).length := by simp
  rw [List.cons_append, List.map_cons, ItemRule.takeAll, placeholderItem_map_char, htake, hdrop,
    if_pos ⟨rfl, hne⟩]
  simp only [hlength, ↓reduceIte]

/-- What a generated pattern has behind a token begins with a placeholder or as the text does. -/
theorem head?_flatMap_sourceOf (ts : List Token) :
    (ts.flatMap sourceOf).head? = some ':' ∨
      (ts.flatMap sourceOf).head? = (ts.flatMap Token.chars).head? := by
  induction ts with
  | nil => exact Or.inr rfl
  | cons t ts ih =>
      cases t with
      | text chars =>
          cases chars with
          | nil => exact ih
          | cons c chars => exact Or.inr rfl
      | literal kind chars index => exact Or.inl rfl

theorem any_isNameCharacter_of_isWord {ts : List Token}
    (h : (ts.flatMap Token.chars).head?.any Unicode.isWord = false) :
    (ts.flatMap sourceOf).head?.any isNameCharacter = false := by
  rcases head?_flatMap_sourceOf ts with hcolon | hsame
  · rw [hcolon]
    rfl
  · rw [hsame]
    cases hhead : (ts.flatMap Token.chars).head? with
    | none => rfl
    | some c =>
        rw [hhead, Option.any_some] at h
        rw [Option.any_some, ← Bool.not_eq_true]
        intro hname
        exact absurd (isWord_of_isNameCharacter hname) (by simp [h])

variable {ts : List Token}

theorem takeAll_flatMap_sourceOf
    (htext : ∀ chars, Token.text chars ∈ ts → ∀ c ∈ chars, c ∉ markers)
    (hapart : ∀ kind, Apart kind ts) :
    placeholderItem.takeAll ((ts.flatMap sourceOf).map .char) = ts.flatMap itemsOf := by
  induction ts with
  | nil => rw [List.flatMap_nil, List.map_nil, ItemRule.takeAll]; rfl
  | cons t ts ih =>
      have hrest (hapart : ∀ kind, Apart kind ts) :=
        ih (fun chars hmem => htext chars (List.mem_cons_of_mem t hmem)) hapart
      rw [List.flatMap_cons, List.flatMap_cons]
      cases t with
      | text chars =>
          have hcolon : ':' ∉ chars := fun hmem =>
            htext chars List.mem_cons_self _ hmem (by decide)
          rw [sourceOf, takeAll_text hcolon, hrest hapart, itemsOf]
      | literal kind chars index =>
          have hbehind := any_isNameCharacter_of_isWord ((hapart kind).1 rfl)
          rw [sourceOf, takeAll_placeholder (argumentName_ne_nil index)
            isNameCharacter_of_mem_argumentName hbehind, hrest fun other => (hapart other).2]
          rfl

theorem mem_of_char_mem_itemsOf {c : Char} (h : Item.char c ∈ ts.flatMap itemsOf) :
    ∃ chars, Token.text chars ∈ ts ∧ c ∈ chars := by
  obtain ⟨t, ht, hmem⟩ := List.mem_flatMap.mp h
  cases t with
  | text chars =>
      obtain ⟨d, hd, heq⟩ := List.mem_map.mp hmem
      exact ⟨chars, ht, Item.char.inj heq ▸ hd⟩
  | literal kind chars index => exact absurd hmem (by simp [itemsOf])

/-- A generated pattern has the characters of the text and a placeholder for each literal as its
items. -/
theorem items_flatMap_sourceOf
    (htext : ∀ chars, Token.text chars ∈ ts → ∀ c ∈ chars, c ∉ markers)
    (hapart : ∀ kind, Apart kind ts) : items (ts.flatMap sourceOf) = ts.flatMap itemsOf := by
  have hmarker {c : Char} (hc : c ∈ markers) : Item.char c ∉ ts.flatMap itemsOf := by
    intro hmem
    obtain ⟨chars, hchars, hmem⟩ := mem_of_char_mem_itemsOf hmem
    exact htext chars hchars c hmem hc
  rw [items, takeAll_flatMap_sourceOf htext hapart,
    takeAll_choice_optional (hmarker (by decide)) (hmarker (by decide))]

theorem filterMap_name?_itemsOf (ts : List Token) :
    (ts.flatMap itemsOf).filterMap Item.name? = (ts.filterMap Token.index?).map argumentName := by
  induction ts with
  | nil => rfl
  | cons t ts ih =>
      rw [List.flatMap_cons, List.filterMap_append, ih]
      cases t with
      | text chars =>
          rw [itemsOf, filterMap_name?_map_char]
          rfl
      | literal kind chars index => rfl

theorem isStrict_of_mem_itemsOf : ∀ i ∈ ts.flatMap itemsOf, i.IsStrict := by
  intro i hi
  obtain ⟨t, -, hmem⟩ := List.mem_flatMap.mp hi
  cases t with
  | text chars =>
      obtain ⟨c, -, rfl⟩ := List.mem_map.mp hmem
      trivial
  | literal kind chars index =>
      rw [List.mem_singleton.mp hmem]
      trivial

/-! How a step text is read by the pattern that it becomes. -/

def quotingOf : LiteralKind → Quoting
  | .doubleQuoted => .double
  | .singleQuoted => .single
  | .integer => .bare

def valueOf? : Token → Option (Quoting × List Char)
  | .text _ => none
  | .literal kind chars _ => some (quotingOf kind, kind.valueOf chars)

theorem written_quotingOf (kind : LiteralKind) (value : List Char) :
    (quotingOf kind).written value = kind.written value := by
  cases kind with
  | doubleQuoted => rfl
  | singleQuoted => rfl
  | integer => rfl

/-- A literal stands where its value may be read. -/
theorem quotingOf_allows {kind : LiteralKind} {before value after : List Char} (hne : value ≠ [])
    (hvalue : kind.Allows value) (hbefore : isBoundary before.getLast? = true)
    (hafter : after.head?.any Unicode.isWord = false) :
    (quotingOf kind).Allows before value after := by
  cases kind with
  | doubleQuoted => exact ⟨hne, hvalue⟩
  | singleQuoted => exact ⟨hne, hvalue⟩
  | integer =>
      exact ⟨hne, fun c hc => Unicode.isWord_of_has_decimalNumber (hvalue.2 c hc),
        any_isWord_of_isBoundary hbefore, hafter⟩

theorem ReadsAs.map_char {before text : List Char} {row : List Item}
    {values : List (Quoting × List Char)} (chars : List Char)
    (h : ReadsAs row (before ++ chars) text values) :
    ReadsAs (chars.map .char ++ row) before (chars ++ text) values := by
  induction chars generalizing before with
  | nil =>
      rw [List.append_nil] at h
      exact h
  | cons c chars ih =>
      have hrest : ReadsAs (chars.map .char ++ row) (before ++ [c]) (chars ++ text) values :=
        ih (by rwa [List.append_assoc])
      have hfirst : ReadsAs (.char c :: (chars.map .char ++ row)) before ([c] ++ (chars ++ text))
          values :=
        .silent rfl rfl hrest
      exact hfirst

/-- A text is read as the characters between its literals and the values of these. -/
theorem readsAs_number {ps : List Piece} {next : LiteralKind → Nat} {before : List Char}
    (hbounded : Bounded before.getLast? ps) (hapart : ∀ kind, Apart kind (number next ps)) :
    ReadsAs ((number next ps).flatMap itemsOf) before (ps.flatMap Piece.chars)
      ((number next ps).filterMap valueOf?) := by
  induction ps generalizing next before with
  | nil => exact .nil
  | cons p ps ih =>
      cases p with
      | text chars =>
          rw [Bounded, ← List.getLast?_append] at hbounded
          exact (ih hbounded hapart).map_char chars
      | literal kind chars =>
          obtain ⟨hbefore, ⟨value, hne, hvalue, rfl⟩, hrest⟩ := hbounded
          rw [← List.getLast?_append] at hrest
          have hbehind := (hapart kind).1 rfl
          rw [flatMap_chars_number] at hbehind
          have hothers := ih hrest fun other => (hapart other).2
          rw [number, List.flatMap_cons, List.flatMap_cons,
            List.filterMap_cons_some (b := (quotingOf kind, value)) (by simp [valueOf?]),
            Piece.chars, ← written_quotingOf]
          rw [← written_quotingOf] at hothers
          exact .placeholder (quotingOf_allows hne hvalue hbefore hbehind) hothers

/-- The argument that a literal becomes: its number is part of the name. -/
def argument? : Token → Option (String × String)
  | .text _ => none
  | .literal kind chars index =>
      some ("arg" ++ toString index, String.ofList (kind.valueOf chars))

theorem bindings_valueOf? (ts : List Token) :
    bindings ((ts.filterMap Token.index?).map argumentName) (ts.filterMap valueOf?) =
      ts.filterMap argument? := by
  induction ts with
  | nil => rfl
  | cons t ts ih =>
      cases t with
      | text chars => exact ih
      | literal kind chars index =>
          rw [List.filterMap_cons_some (f := argument?) rfl, ← ih, ← ofList_argumentName]
          rfl

/-- If the text between the literals has no marker of a pattern, and no number goes on with a
word, the pattern that is generated from a step text has a matcher. Unless the matcher is degraded
because of its size, it matches the text, and its arguments are the values of the literals in
their order. -/
theorem arguments?_generate (text : String)
    (htext : ∀ chars, Token.text chars ∈ tokenize text.toList → ∀ c ∈ chars, c ∉ markers)
    (hnumbers : Apart .integer (tokenize text.toList)) :
    let source := turnipNotation.toRegex (turnipNotation.generate text).source
    (Matcher.ofSourceWithin none source).isDegraded = false ∧
      ∀ limit : Option Nat, (Matcher.ofSourceWithin limit source).isDegraded = false →
        (Matcher.ofSourceWithin limit source).isMatch text = true ∧
          (Matcher.ofSourceWithin limit source).arguments? text =
            some ((tokenize text.toList).filterMap argument?) := by
  intro source
  have hsource : (turnipNotation.generate text).source.toList =
      (tokenize text.toList).flatMap sourceOf := String.toList_ofList
  have hapart : ∀ kind, Apart kind (tokenize text.toList) := by
    intro kind
    by_cases hkind : kind = .integer
    · exact hkind ▸ hnumbers
    · exact apart_tokenize text.toList hkind
  have hitems := items_flatMap_sourceOf htext hapart
  have hnames : placeholderNames (turnipNotation.generate text).source.toList =
      ((tokenize text.toList).filterMap Token.index?).map argumentName := by
    rw [hsource, ← filterMap_name?_items, hitems, filterMap_name?_itemsOf]
  have hnodup : (placeholderNames (turnipNotation.generate text).source.toList).Nodup := by
    rw [hnames]
    exact (nodup_index? text.toList).map fun _ _ h => argumentName_injective h
  have hdigit : ∀ name ∈ placeholderNames (turnipNotation.generate text).source.toList,
      ∀ c ∈ name.head?, c.isDigit = false := by
    rw [hnames]
    intro name hname c hc
    obtain ⟨index, -, rfl⟩ := List.mem_map.mp hname
    obtain rfl : 'a' = c := Option.some.inj hc
    rfl
  have hreads : ReadsAs (items (turnipNotation.generate text).source.toList) [] text.toList
      ((tokenize text.toList).filterMap valueOf?) := by
    have hpieces : ReadsAs ((tokenize text.toList).flatMap itemsOf) []
        ((pieces text.toList).flatMap Piece.chars) ((tokenize text.toList).filterMap valueOf?) :=
      readsAs_number (bounded_pieces text.toList) hapart
    rw [flatMap_chars_pieces] at hpieces
    rwa [hsource, hitems]
  refine ⟨isDegraded_toRegex hnodup hdigit, fun limit hdegraded => ?_⟩
  have hmatch := isMatch_of_readsAs hnodup hdigit hdegraded hreads
  obtain ⟨values, hfound, harguments⟩ := arguments?_of_isMatch hnodup hdigit hmatch
  have hstrict : ∀ i ∈ items (turnipNotation.generate text).source.toList, i.IsStrict := by
    rw [hsource, hitems]
    exact isStrict_of_mem_itemsOf
  rw [hfound.unique hstrict hreads, hnames, bindings_valueOf?] at harguments
  exact ⟨hmatch, harguments⟩

/-- A step text with markers in its literals, and with quotes around no literal. -/
def orderText : String :=
  "I add \"a:b\" and 'c/d' to 3, not \"x\"y or 5"

theorem tokenize_orderText :
    tokenize orderText.toList =
      [.text "I add ".toList, .literal .doubleQuoted "\"a:b\"".toList 1, .text " and ".toList,
        .literal .singleQuoted "'c/d'".toList 2, .text " to ".toList,
        .literal .integer "3".toList 3, .text ", not \"x\"y or ".toList,
        .literal .integer "5".toList 4] := by
  decide +kernel

theorem arguments?_generate_orderText :
    let m := Matcher.ofSource (turnipNotation.toRegex (turnipNotation.generate orderText).source)
    (∀ chars, Token.text chars ∈ tokenize orderText.toList → ∀ c ∈ chars, c ∉ markers) ∧
      Apart .integer (tokenize orderText.toList) ∧
      m.isDegraded = false ∧ m.isMatch orderText = true ∧
      m.arguments? orderText =
        some [("arg1", "a:b"), ("arg2", "c/d"), ("arg3", "3"), ("arg4", "5")] := by
  have htext : ∀ chars, Token.text chars ∈ tokenize orderText.toList →
      ∀ c ∈ chars, c ∉ markers := by
    have htokens : (tokenize orderText.toList).all (fun t =>
        t.isLiteral || t.chars.all (· ∉ markers)) = true := by
      rw [tokenize_orderText]
      decide
    intro chars hmem c hc
    have hchars : chars.all (· ∉ markers) = true := List.all_eq_true.mp htokens _ hmem
    simpa using List.all_eq_true.mp hchars c hc
  have hnumbers : Apart .integer (tokenize orderText.toList) := by
    rw [tokenize_orderText]
    exact ⟨nofun, nofun, fun _ => by decide, fun _ => rfl, trivial⟩
  have harguments : (tokenize orderText.toList).filterMap argument? =
      [("arg1", "a:b"), ("arg2", "c/d"), ("arg3", "3"), ("arg4", "5")] := by
    rw [tokenize_orderText]
    decide
  have hsource : (turnipNotation.generate orderText).source =
      "I add :arg1 and :arg2 to :arg3, not \"x\"y or :arg4" := by
    change String.ofList ((tokenize orderText.toList).flatMap sourceOf) = _
    rw [tokenize_orderText]
    rfl
  have hnames : placeholderNames (turnipNotation.generate orderText).source.toList =
      ["arg1".toList, "arg2".toList, "arg3".toList, "arg4".toList] := by
    rw [hsource]
    decide
  have hsize : (Matcher.ofSource
      (turnipNotation.toRegex (turnipNotation.generate orderText).source)).isDegraded = false := by
    refine (isDegraded_within ?_ ?_ Regex.sizeLimit).1 ?_
    · rw [hnames]
      decide
    · rw [hnames]
      simp
    · rw [patternBytes, hnames, hsource]
      decide
  obtain ⟨-, hall⟩ := arguments?_generate orderText htext hnumbers
  obtain ⟨hmatch, hfound⟩ := hall (some Regex.sizeLimit) hsize
  rw [harguments] at hfound
  exact ⟨htext, hnumbers, hsize, hmatch, hfound⟩

end Stepwise.Turnip
