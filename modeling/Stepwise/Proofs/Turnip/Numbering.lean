import Mathlib.Algebra.Ring.Nat
import Stepwise.Proofs.Step.Alternation
import Stepwise.Proofs.Turnip.Generation

/-!
# The placeholders of generated patterns

A literal of a step text becomes a placeholder with its number, and the name of the placeholder
goes on with the name characters that stand directly behind the literal. Main statement: the
placeholders of a generated pattern are as many as the literals, and they have the numbered names
exactly if no integer stands directly before a name character.
-/

namespace Stepwise.Turnip

open Step Regex

/-- For each literal, the name characters that stand directly behind it. -/
def runsBehind : List Token → List (List Char)
  | [] => []
  | .text _ :: rest => runsBehind rest
  | .literal .. :: rest =>
      (rest.flatMap Token.chars).takeWhile isNameCharacter :: runsBehind rest

/-- The names of the arguments of the literals, each with the characters behind its literal. -/
def extendedNames (ts : List Token) : List (List Char) :=
  List.zipWith (· ++ ·) ((ts.filterMap Token.index?).map argumentName) (runsBehind ts)

variable {before : Option Char} {ps : List Piece} {ts : List Token}

/-! What is recognised in a generated pattern. -/

/-- Behind a character that is no white space, a generated pattern goes on with the same name as
the text, since there is no literal before some white space. -/
theorem takeWhile_flatMap_sourceOf (h : Bounded before ps) (hbefore : isBoundary before = false)
    (next : LiteralKind → Nat) :
    ((number next ps).flatMap sourceOf).takeWhile isNameCharacter =
      (ps.flatMap Piece.chars).takeWhile isNameCharacter := by
  induction ps generalizing before next with
  | nil => rfl
  | cons p ps ih =>
      cases p with
      | text chars =>
          rw [number, List.flatMap_cons, List.flatMap_cons, sourceOf, Piece.chars]
          exact takeWhile_append_congr (fun _ => isSpace_of_isNameCharacter) hbefore
            fun hlast => ih h hlast next
      | literal kind chars => exact absurd h.1 (by simp [hbefore])

/-- The placeholders of a generated pattern are called as the numbered arguments, as far as the
name goes on behind them. -/
theorem placeholderNames_number (h : Bounded before ps) (next : LiteralKind → Nat)
    (htext : ∀ chars, Token.text chars ∈ number next ps → ':' ∉ chars) :
    placeholderNames ((number next ps).flatMap sourceOf) = extendedNames (number next ps) := by
  induction ps generalizing before next with
  | nil => rfl
  | cons p ps ih =>
      cases p with
      | text chars =>
          rw [number, List.flatMap_cons, sourceOf,
            placeholderNames_append (htext chars List.mem_cons_self)]
          exact ih h next fun chars hmem => htext chars (List.mem_cons_of_mem _ hmem)
      | literal kind chars =>
          obtain ⟨-, hwrites, hbounded⟩ := h
          let index := next kind
          let others := number (fun other => if other = kind then next other + 1 else next other) ps
          have hbehind : (others.flatMap sourceOf).takeWhile isNameCharacter =
              (others.flatMap Token.chars).takeWhile isNameCharacter := by
            rw [flatMap_chars_number]
            refine takeWhile_flatMap_sourceOf hbounded ?_ _
            rw [getLast?_or_of_ne_nil hwrites.ne_nil]
            exact hwrites.isBoundary_getLast?
          have hname : (argumentName index ++ others.flatMap sourceOf).takeWhile isNameCharacter =
              argumentName index ++ (others.flatMap Token.chars).takeWhile isNameCharacter := by
            rw [List.takeWhile_append_of_pos isNameCharacter_of_mem_argumentName, hbehind]
          have hne : (argumentName index ++ others.flatMap sourceOf).takeWhile isNameCharacter ≠
              [] := by
            rw [hname]
            exact List.append_ne_nil_of_left_ne_nil (argumentName_ne_nil index) _
          have hcolon : ':' ∉ argumentName index := fun hmem =>
            absurd (isNameCharacter_of_mem_argumentName _ hmem) (by decide)
          have hsource : (number next (.literal kind chars :: ps)).flatMap sourceOf =
              ':' :: (argumentName index ++ others.flatMap sourceOf) :=
            rfl
          rw [hsource, placeholderNames, if_pos ⟨rfl, hne⟩, hname, placeholderNames_append hcolon,
            ih hbounded _ fun chars hmem => htext chars (List.mem_cons_of_mem _ hmem)]
          rfl

/-! Which names these are. -/

theorem filterMap_index?_literal (kind : LiteralKind) (chars : List Char) (index : Nat)
    (ts : List Token) :
    (Token.literal kind chars index :: ts).filterMap Token.index? =
      index :: ts.filterMap Token.index? :=
  rfl

theorem extendedNames_literal (kind : LiteralKind) (chars : List Char) (index : Nat)
    (ts : List Token) :
    extendedNames (.literal kind chars index :: ts) =
      (argumentName index ++ (ts.flatMap Token.chars).takeWhile isNameCharacter) ::
        extendedNames ts :=
  rfl

/-- Unless there are digits behind the literals, the names still tell the numbers. -/
theorem map_digits_extendedNames (h : ∀ run ∈ runsBehind ts, run.head?.any Char.isDigit = false) :
    (extendedNames ts).map (fun name => (name.drop 3).takeWhile Char.isDigit) =
      (ts.filterMap Token.index?).map (Nat.toDigits 10) := by
  induction ts with
  | nil => rfl
  | cons t ts ih =>
      cases t with
      | text chars => exact ih h
      | literal kind chars index =>
          obtain ⟨hfirst, hrest⟩ := List.forall_mem_cons.mp h
          have hall : ∀ c ∈ Nat.toDigits 10 index, c.isDigit = true := fun c hc =>
            Nat.isDigit_of_mem_toDigits (by decide) (by decide) hc
          have hdrop (run : List Char) :
              (argumentName index ++ run).drop 3 = Nat.toDigits 10 index ++ run :=
            rfl
          rw [extendedNames_literal, filterMap_index?_literal, List.map_cons, List.map_cons, hdrop,
            List.takeWhile_append_of_pos hall, takeWhile_eq_nil hfirst, List.append_nil, ih hrest]

/-- All names together are as long as the names of the arguments with what is behind the
literals. -/
theorem sum_length_extendedNames (ts : List Token) :
    ((extendedNames ts).map List.length).sum =
      (((ts.filterMap Token.index?).map argumentName).map List.length).sum +
        ((runsBehind ts).map List.length).sum := by
  induction ts with
  | nil => rfl
  | cons t ts ih =>
      cases t with
      | text chars => exact ih
      | literal kind chars index =>
          rw [extendedNames_literal, runsBehind, filterMap_index?_literal]
          simp only [List.map_cons, List.sum_cons, List.length_append, ih]
          omega

theorem extendedNames_of_runsBehind (h : ∀ run ∈ runsBehind ts, run = []) :
    extendedNames ts = (ts.filterMap Token.index?).map argumentName := by
  induction ts with
  | nil => rfl
  | cons t ts ih =>
      cases t with
      | text chars => exact ih h
      | literal kind chars index =>
          obtain ⟨hfirst, hrest⟩ := List.forall_mem_cons.mp h
          rw [extendedNames_literal, hfirst, List.append_nil, ih hrest]
          rfl

/-- The names are those of the arguments only if no literal is followed by a name character: else
they are longer. -/
theorem perm_extendedNames_iff :
    (extendedNames ts).Perm ((ts.filterMap Token.index?).map argumentName) ↔
      ∀ run ∈ runsBehind ts, run = [] := by
  constructor
  · intro hperm
    have hsum := (hperm.map List.length).sum_nat
    rw [sum_length_extendedNames, Nat.add_eq_left, List.sum_eq_zero_iff_forall_eq_nat] at hsum
    intro run hrun
    exact List.length_eq_zero_iff.mp (hsum _ (List.mem_map_of_mem hrun))
  · intro h
    rw [extendedNames_of_runsBehind h]

/-- The name characters behind a literal are those at the front of the text behind it. -/
theorem mem_runsBehind_iff {run : List Char} :
    run ∈ runsBehind ts ↔
      ∃ front kind chars index behind, ts = front ++ .literal kind chars index :: behind ∧
        run = (behind.flatMap Token.chars).takeWhile isNameCharacter := by
  induction ts with
  | nil => simp [runsBehind]
  | cons t ts ih =>
      have hlater : (∃ front kind chars index behind,
            t :: ts = t :: front ++ .literal kind chars index :: behind ∧
              run = (behind.flatMap Token.chars).takeWhile isNameCharacter) ↔
          run ∈ runsBehind ts := by
        simp only [ih, List.cons_append, List.cons.injEq, true_and]
      cases t with
      | text chars =>
          rw [runsBehind, ← hlater]
          constructor
          · rintro ⟨front, hfront⟩
            exact ⟨_, hfront⟩
          · rintro ⟨front, kind, others, index, behind, heq, hrun⟩
            cases front with
            | nil => exact absurd (List.cons.inj heq).1 (by simp)
            | cons first front =>
                obtain rfl := (List.cons.inj heq).1
                exact ⟨front, kind, others, index, behind, heq, hrun⟩
      | literal kind chars index =>
          rw [runsBehind, List.mem_cons, ← hlater]
          constructor
          · rintro (rfl | ⟨front, hfront⟩)
            · exact ⟨[], kind, chars, index, ts, rfl, rfl⟩
            · exact ⟨_, hfront⟩
          · rintro ⟨front, other, others, place, behind, heq, hrun⟩
            cases front with
            | nil =>
                obtain ⟨-, rfl⟩ := List.cons.inj heq
                exact Or.inl hrun
            | cons first front =>
                obtain rfl := (List.cons.inj heq).1
                exact Or.inr ⟨front, other, others, place, behind, heq, hrun⟩

theorem takeWhile_eq_nil_iff {p : Char → Bool} {text : List Char} :
    text.takeWhile p = [] ↔ text.head?.any p = false := by
  refine ⟨fun h => ?_, takeWhile_eq_nil⟩
  cases text with
  | nil => rfl
  | cons c text =>
      rw [List.head?_cons, Option.any_some, ← Bool.not_eq_true]
      intro hc
      rw [List.takeWhile_cons_of_pos hc] at h
      exact absurd h (List.cons_ne_nil c _)

/-- There are no name characters behind a quoted literal. -/
theorem takeWhile_behind_quoted {quote : Char} {front chars behind : List Char}
    (h : IsQuotedSpan quote front chars behind) : behind.takeWhile isNameCharacter = [] := by
  rw [takeWhile_eq_nil_iff]
  cases hhead : behind.head? with
  | none => rfl
  | some c =>
      have hspace : Unicode.isSpace c = true := by
        simpa [isBoundary, hhead] using h.2.2
      rw [Option.any_some, ← Bool.not_eq_true]
      intro hname
      rw [isSpace_of_isNameCharacter hname] at hspace
      exact Bool.noConfusion hspace

/-- An integer is a whole run of digits, so that no digits stand behind a literal. -/
theorem head?_of_mem_runsBehind (text : List Char) :
    ∀ run ∈ runsBehind (tokenize text), run.head?.any Char.isDigit = false := by
  intro run hrun
  obtain ⟨front, kind, chars, index, behind, heq, rfl⟩ := mem_runsBehind_iff.mp hrun
  have hfits := fits_of_tokenize_eq heq
  cases kind with
  | doubleQuoted =>
      rw [takeWhile_behind_quoted hfits]
      rfl
  | singleQuoted =>
      rw [takeWhile_behind_quoted hfits]
      rfl
  | integer =>
      have hdigit : (behind.flatMap Token.chars).head?.any Char.isDigit = false := hfits.2.2.2.1
      rw [List.head?_takeWhile]
      cases hhead : (behind.flatMap Token.chars).head? with
      | none => rfl
      | some c =>
          rw [hhead, Option.any_some] at hdigit
          simp [Option.any_filter, hdigit]

/-- Only integers may stand directly before a name character. -/
theorem runsBehind_tokenize_iff (text : List Char) :
    (∀ run ∈ runsBehind (tokenize text), run = []) ↔
      ∀ front chars index behind,
        tokenize text = front ++ .literal .integer chars index :: behind →
          (behind.flatMap Token.chars).head?.any isNameCharacter = false := by
  constructor
  · intro h front chars index behind heq
    exact takeWhile_eq_nil_iff.mp
      (h _ (mem_runsBehind_iff.mpr ⟨front, .integer, chars, index, behind, heq, rfl⟩))
  · intro h run hrun
    obtain ⟨front, kind, chars, index, behind, heq, rfl⟩ := mem_runsBehind_iff.mp hrun
    have hfits := fits_of_tokenize_eq heq
    cases kind with
    | doubleQuoted => exact takeWhile_behind_quoted hfits
    | singleQuoted => exact takeWhile_behind_quoted hfits
    | integer => exact takeWhile_eq_nil_iff.mpr (h front chars index behind heq)

/-- The names differ, since their literals have different numbers. -/
theorem nodup_extendedNames_tokenize (text : List Char) :
    (extendedNames (tokenize text)).Nodup := by
  apply List.Nodup.of_map (fun name => (name.drop 3).takeWhile Char.isDigit)
  rw [map_digits_extendedNames (head?_of_mem_runsBehind text)]
  apply (nodup_index? text).map
  intro i j hij
  apply Matcher.toString_injective
  rw [Nat.toString_eq_ofList_toDigits, Nat.toString_eq_ofList_toDigits, hij]

theorem length_extendedNames_tokenize (text : List Char) :
    (extendedNames (tokenize text)).length = literalCount text := by
  have hlength := congrArg List.length (map_digits_extendedNames (head?_of_mem_runsBehind text))
  rwa [List.length_map, List.length_map, length_filterMap_index?] at hlength

/-- The names begin with a letter. -/
theorem isDigit_head?_of_mem_extendedNames :
    ∀ name ∈ extendedNames ts, ∀ c ∈ name.head?, c.isDigit = false := by
  intro name hname c hc
  obtain ⟨i, hi, rfl⟩ := List.mem_iff_getElem.mp hname
  simp only [extendedNames, List.getElem_zipWith, List.getElem_map] at hc
  obtain rfl : 'a' = c := Option.some.inj hc
  rfl

/-- If the text between the literals has no colons, the pattern that is generated from a step text
has as many placeholders as literals, with different names, and its matcher has the groups of
these. The names are those of the arguments with the numbers from one on exactly if no integer
stands directly before a name character. -/
theorem placeholderNames_generate (text : String)
    (htext : ∀ chars, Token.text chars ∈ tokenize text.toList → ':' ∉ chars) :
    let pattern := turnipNotation.generate text
    let names := placeholderNames pattern.source.toList
    names = extendedNames (tokenize text.toList) ∧
      names.length = pattern.placeholders ∧ names.Nodup ∧
      (∃ regex, (Matcher.ofSourceWithin none (turnipNotation.toRegex pattern.source)).regex =
          some regex ∧
        regex.names.filterMap id = (names.flatMap aliases).map String.ofList) ∧
      (names.Perm ((List.range' 1 pattern.placeholders).map argumentName) ↔
        ∀ front chars index behind,
          tokenize text.toList = front ++ .literal .integer chars index :: behind →
            (behind.flatMap Token.chars).head?.any isNameCharacter = false) := by
  intro pattern names
  have hnames : names = extendedNames (tokenize text.toList) := by
    have hsource : pattern.source.toList = (tokenize text.toList).flatMap sourceOf :=
      String.toList_ofList
    have hread : placeholderNames ((tokenize text.toList).flatMap sourceOf) =
        extendedNames (tokenize text.toList) :=
      placeholderNames_number (bounded_pieces text.toList) _ htext
    rwa [← hsource] at hread
  have hnodup : names.Nodup := hnames ▸ nodup_extendedNames_tokenize text.toList
  have hdigit : ∀ name ∈ names, ∀ c ∈ name.head?, c.isDigit = false :=
    hnames ▸ isDigit_head?_of_mem_extendedNames
  refine ⟨hnames, hnames ▸ length_extendedNames_tokenize text.toList, hnodup, ?_, ?_⟩
  · obtain ⟨e, hregex, -, -⟩ := (denotes_items hdigit).regex_wholeMatcher
      (distinct_groupNames_items hnodup) (by decide)
    refine ⟨⟨e.program, (items pattern.source.toList).flatMap Item.groupNames⟩, ?_, ?_⟩
    · rw [ofSourceWithin_toRegex]
      exact hregex none
    · rw [groupNames_eq_aliases, filterMap_name?_items]
  · have hperm : (((tokenize text.toList).filterMap Token.index?).map argumentName).Perm
        ((List.range' 1 pattern.placeholders).map argumentName) :=
      (perm_range'_index? text.toList).map argumentName
    rw [hnames, ← hperm.congr_right, perm_extendedNames_iff, runsBehind_tokenize_iff]

/-- A step text with an integer directly before a name character. -/
def weightText : String :=
  "I add 5kg of \"tea\" for 2"

theorem tokenize_weightText :
    tokenize weightText.toList =
      [.text "I add ".toList, .literal .integer "5".toList 2, .text "kg of ".toList,
        .literal .doubleQuoted "\"tea\"".toList 1, .text " for ".toList,
        .literal .integer "2".toList 3] := by
  decide +kernel

theorem placeholderNames_generate_weightText :
    let pattern := turnipNotation.generate weightText
    let names := placeholderNames pattern.source.toList
    (∀ chars, Token.text chars ∈ tokenize weightText.toList → ':' ∉ chars) ∧
      names = ["arg2kg".toList, "arg1".toList, "arg3".toList] ∧ names.length = 3 ∧
      ¬names.Perm ((List.range' 1 pattern.placeholders).map argumentName) := by
  intro pattern names
  have htext : ∀ chars, Token.text chars ∈ tokenize weightText.toList → ':' ∉ chars := by
    rw [tokenize_weightText]
    intro chars hmem
    simp only [List.mem_cons, Token.text.injEq, reduceCtorEq, false_or, List.not_mem_nil,
      or_false] at hmem
    rcases hmem with rfl | rfl | rfl
    · decide
    · decide
    · decide
  obtain ⟨hnames, -, -, -, hperm⟩ := placeholderNames_generate weightText htext
  have hextended : names = ["arg2kg".toList, "arg1".toList, "arg3".toList] := by
    have hrow := hnames
    rw [tokenize_weightText] at hrow
    exact hrow
  refine ⟨htext, hextended, by rw [hextended]; rfl, fun hall => ?_⟩
  have hnone := hperm.mp hall [.text "I add ".toList] "5".toList 2 _ tokenize_weightText
  exact absurd hnone (by decide)

end Stepwise.Turnip
