import Stepwise.Pattern.Registry
import Stepwise.Proofs.Delimited.Grammar
import Stepwise.Proofs.Pattern.Matching
import Stepwise.Proofs.Pattern.Units
import Stepwise.Proofs.Step.Pieces

/-!
# Patterns generated between delimiters

A step text becomes a pattern in which each literal is a group. Main statements: compiled again,
the pattern matches the texts that have other values in the places of the literals, and the values
are the arguments; and it is not too large for a limit as long as the step text is not too long.
-/

namespace Stepwise.Delimited

open Regex Step

/-! The expression of a generated pattern. -/

theorem parts?_generate (text : List Char) :
    parts? (generate text) =
      some ⟨'/', '^' :: ((tokenize text).flatMap sourceOf ++ ['$']), []⟩ :=
  parts?_eq_some_iff.mpr ⟨⟨'/', List.mem_cons_self, by simp [generate]⟩, by simp⟩

/-- A generated pattern is no turnip pattern. -/
theorem isDelimited_generate (text : List Char) : Turnip.isDelimited (generate text) = true := by
  have hlast : (generate text).getLast? = some '/' := by
    rw [generate, List.getLast?_append]
    rfl
  have hhead : (generate text).head? = some '/' := rfl
  rw [Turnip.isDelimited, hhead, hlast]
  rfl

/-- A piece as the expression of a generated pattern has it. -/
def expressionOf : Piece → List Char
  | .text chars => Regex.quote chars
  | .literal kind _ => literalGroup kind

theorem quote_cons (c : Char) (text : List Char) :
    Regex.quote (c :: text) = (if isSpecial c then ['\\', c] else [c]) ++ Regex.quote text :=
  rfl

/-- Only the backslashes before slashes are removed from a text that is quoted. -/
theorem unescape_escapeSlashes_quote (text rest : List Char) :
    unescape ['/'] (escapeSlashes (Regex.quote text) ++ rest) =
      Regex.quote text ++ unescape ['/'] rest := by
  induction text with
  | nil => rfl
  | cons c text ih =>
      rw [quote_cons, escapeSlashes, List.flatMap_append, List.append_assoc, List.append_assoc]
      by_cases hspecial : isSpecial c = true
      · have hslash : c ≠ '/' := by
          rintro rfl
          exact absurd hspecial (by decide)
        rw [if_pos hspecial, List.flatMap_cons, List.flatMap_singleton, if_neg (by decide),
          if_neg hslash]
        simp only [List.cons_append, List.nil_append]
        rw [unescape, if_pos rfl, if_neg (by simpa using hslash)]
        exact congrArg _ (congrArg _ ih)
      · rw [if_neg hspecial, List.flatMap_singleton]
        by_cases hslash : c = '/'
        · subst hslash
          rw [if_pos rfl, List.cons_append, List.singleton_append, unescape, if_pos rfl,
            if_pos (by decide)]
          exact congrArg _ ih
        · have hbackslash : c ≠ '\\' := by
            rintro rfl
            exact absurd rfl hspecial
          rw [if_neg hslash, List.singleton_append, unescape_cons hbackslash]
          exact congrArg _ ih

theorem unescape_literalGroup (kind : LiteralKind) (rest : List Char) :
    unescape ['/'] (literalGroup kind ++ rest) = literalGroup kind ++ unescape ['/'] rest := by
  cases kind with
  | doubleQuoted => exact unescape_append (by decide) rest
  | singleQuoted => exact unescape_append (by decide) rest
  | integer =>
      have hgroup : literalGroup .integer = '(' :: '\\' :: 'd' :: ['+', ')'] := rfl
      rw [hgroup, List.cons_append, unescape_cons (by decide), List.cons_append,
        List.cons_append, unescape, if_pos rfl, if_neg (by decide), unescape_append (by decide)]
      rfl

theorem unescape_flatMap_sourceOf (next : LiteralKind → Nat) (ps : List Piece)
    (rest : List Char) :
    unescape ['/'] ((number next ps).flatMap sourceOf ++ rest) =
      ps.flatMap expressionOf ++ unescape ['/'] rest := by
  induction ps generalizing next with
  | nil => rfl
  | cons p ps ih =>
      cases p with
      | text chars =>
          rw [number, List.flatMap_cons, sourceOf, List.append_assoc,
            unescape_escapeSlashes_quote, ih, List.flatMap_cons, expressionOf,
            List.append_assoc]
      | literal kind chars =>
          rw [number, List.flatMap_cons, sourceOf, List.append_assoc, unescape_literalGroup, ih,
            List.flatMap_cons, expressionOf, List.append_assoc]

/-- The expression of a generated pattern quotes the text between the literals. -/
theorem toRegex_generate (text : List Char) :
    toRegex (generate text) = '^' :: ((pieces text).flatMap expressionOf ++ ['$']) := by
  have hexpression :
      unescape ['/'] ('^' :: ((tokenize text).flatMap sourceOf ++ ['$'])) =
        '^' :: ((pieces text).flatMap expressionOf ++ ['$']) := by
    rw [unescape_cons (by decide), tokenize, unescape_flatMap_sourceOf]
    rfl
  rw [toRegex, parts?_generate]
  exact hexpression

/-! The trees of the pieces of a text. -/

def literalTrees (index : Nat) : LiteralKind → List Tree
  | .doubleQuoted => enclosedTrees '"' 0 index
  | .singleQuoted => enclosedTrees '\'' 0 index
  | .integer => [.capture index (.repeated (.short false .digit) 1 none true)]

/-- The trees of pieces behind a number of groups. -/
def piecesTrees : Nat → List Piece → List Tree
  | _, [] => []
  | n, .text chars :: ps => plainTrees chars ++ piecesTrees n ps
  | n, .literal kind _ :: ps => literalTrees (n + 1) kind ++ piecesTrees (n + 1) ps

/-- The names of the groups of some pieces: none has one. -/
def groupNames (ps : List Piece) : List (Option String) :=
  (ps.filterMap Piece.value?).map fun _ => none

/-- A text that is quoted spells itself. -/
theorem spells_quote (text : List Char) (n : Nat) :
    Spells (Regex.quote text) n [] (plainTrees text) := by
  induction text with
  | nil => exact spells_nil n
  | cons c text ih =>
      rw [quote_cons]
      by_cases hspecial : isSpecial c = true
      · rw [if_pos hspecial]
        exact (spells_quoted (Or.inl hspecial) n).append ih
      · have hplain : c ∉ metacharacters :=
          fun hmem => hspecial (isSpecial_of_mem_metacharacters c hmem)
        rw [if_neg hspecial]
        exact (spells_literal hplain n).append ih

theorem spells_literalGroup (kind : LiteralKind) (n : Nat) :
    Spells (literalGroup kind) n [none] (literalTrees (n + 1) kind) := by
  have hquoted {quote : Char} (hplain : quote ∉ metacharacters)
      (hset : quote ∉ ['[', ']', '\\', '-', '&', '~']) :
      Spells (quote :: (('(' :: (['[', '^', quote, ']', '*'] ++ [')'])) ++ [quote])) n [none]
        (enclosedTrees quote 0 (n + 1)) :=
    ((spells_allBut hset (n + 1)).star (by simp)).any.capture.enclosed hplain
  cases kind with
  | doubleQuoted => exact hquoted (by decide) (by decide)
  | singleQuoted => exact hquoted (by decide) (by decide)
  | integer => exact ((spells_digit (n + 1)).plus (by simp)).any.capture

theorem spells_flatMap_expressionOf (ps : List Piece) (n : Nat) :
    Spells (ps.flatMap expressionOf) n (groupNames ps) (piecesTrees n ps) := by
  induction ps generalizing n with
  | nil => exact spells_nil n
  | cons p ps ih =>
      cases p with
      | text chars => exact (spells_quote chars n).append (ih n)
      | literal kind chars => exact (spells_literalGroup kind n).append (ih (n + 1))

theorem depth_piecesTrees (ps : List Piece) (n : Nat) :
    ∀ t ∈ piecesTrees n ps, t.depth .none ≤ 3 := by
  induction ps generalizing n with
  | nil => simp [piecesTrees]
  | cons p ps ih =>
      cases p with
      | text chars =>
          refine List.forall_mem_append.mpr ⟨fun t ht => ?_, ih n⟩
          exact Nat.le_trans (depth_plainTrees chars t ht) (Nat.zero_le 3)
      | literal kind chars =>
          refine List.forall_mem_append.mpr ⟨?_, ih (n + 1)⟩
          cases kind with
          | doubleQuoted => simp [literalTrees, enclosedTrees, Tree.depth, Bracket.depth]
          | singleQuoted => simp [literalTrees, enclosedTrees, Tree.depth, Bracket.depth]
          | integer => simp [literalTrees, Tree.depth]

theorem distinct_groupNames (ps : List Piece) : Distinct (groupNames ps) := by
  have hnone : (groupNames ps).filterMap id = [] := by simp [groupNames]
  rw [Distinct, hnone]
  exact List.nodup_nil

/-! What the pieces of a text denote. -/

/-- What the group of a kind matches. -/
def literalPassage (index : Nat) : LiteralKind → Passage
  | .doubleQuoted => .enclosed '"' 0 index
  | .singleQuoted => .enclosed '\'' 0 index
  | .integer =>
      ((Passage.oneOf Unicode.Category.decimalNumber).timesOf (Passage.allowedTimes 1 none)).group
        index

theorem meanInOrder_literalTrees (kind : LiteralKind) (index : Nat) :
    Tree.MeanInOrder (literalTrees index kind) (literalPassage index kind) := by
  cases kind with
  | doubleQuoted => exact meanInOrder_enclosedTrees '"' 0 index
  | singleQuoted => exact meanInOrder_enclosedTrees '\'' 0 index
  | integer =>
      have hzero : Unicode.Category.decimalNumber.has '0' = true :=
        Unicode.has_decimalNumber_of_isDigit (by decide)
      exact (Tree.means_capture index (Tree.means_run
        (Tree.means_short .digit Unicode.tidy_decimalNumber) hzero 1)).inOrder

/-- A literal has any value that its kind allows, which is remembered. -/
theorem literalPassage_iff {kind : LiteralKind} {index : Nat} {before piece after : List Char}
    {marks : List Mark} :
    literalPassage index kind before piece after marks ↔
      ∃ value, kind.Allows value ∧ piece = kind.written value ∧
        marks = [⟨2 * index + 1, (before ++ kind.quotes ++ value).length⟩,
          ⟨2 * index, (before ++ kind.quotes).length⟩] := by
  have hquoted {quote : Char} :
      Passage.enclosed quote 0 index before piece after marks ↔
        ∃ value, quote ∉ value ∧ piece = [quote] ++ value ++ [quote] ∧
          marks = [⟨2 * index + 1, (before ++ [quote] ++ value).length⟩,
            ⟨2 * index, (before ++ [quote]).length⟩] := by
    simp only [Passage.enclosed_iff, List.append_assoc, List.singleton_append]
    constructor
    · intro h
      obtain ⟨value, hpiece, -, hquote, hmarks⟩ := h
      exact ⟨value, hquote, hpiece, hmarks⟩
    · intro h
      obtain ⟨value, hquote, hpiece, hmarks⟩ := h
      exact ⟨value, hpiece, Nat.zero_le _, hquote, hmarks⟩
  cases kind with
  | doubleQuoted => exact hquoted
  | singleQuoted => exact hquoted
  | integer =>
      rw [literalPassage, Passage.group_iff]
      simp only [Passage.timesOf_oneOf, LiteralKind.Allows, LiteralKind.written,
        LiteralKind.quotes, List.append_nil, List.nil_append]
      constructor
      · intro h
        obtain ⟨inner, ⟨hmin, hall, rfl⟩, hmarks⟩ := h
        exact ⟨piece, ⟨List.ne_nil_of_length_pos hmin, hall⟩, rfl, hmarks⟩
      · intro h
        obtain ⟨value, ⟨hne, hall⟩, rfl, hmarks⟩ := h
        exact ⟨[], ⟨List.length_pos_of_ne_nil hne, hall, rfl⟩, hmarks⟩

/-- What the pieces of a text match behind a number of groups. -/
def piecesPassage : Nat → List Piece → Passage
  | _, [] => .nil
  | n, .text chars :: ps => (Passage.text chars).andThen (piecesPassage n ps)
  | n, .literal kind _ :: ps => (literalPassage (n + 1) kind).andThen (piecesPassage (n + 1) ps)

theorem meanInOrder_piecesTrees (ps : List Piece) (n : Nat) :
    Tree.MeanInOrder (piecesTrees n ps) (piecesPassage n ps) := by
  induction ps generalizing n with
  | nil => exact Tree.meanInOrder_nil
  | cons p ps ih =>
      cases p with
      | text chars => exact (meanInOrder_plainTrees chars).append (ih n)
      | literal kind chars => exact (meanInOrder_literalTrees kind (n + 1)).append (ih (n + 1))

theorem denotes_flatMap_expressionOf (ps : List Piece) (n : Nat) :
    Denotes (ps.flatMap expressionOf) n (groupNames ps) 3 (piecesPassage n ps) :=
  ⟨piecesTrees n ps, spells_flatMap_expressionOf ps n, depth_piecesTrees ps n,
    meanInOrder_piecesTrees ps n⟩

/-- The groups of pieces behind others have larger numbers. -/
theorem slot_of_piecesPassage {ps : List Piece} {n : Nat} {before text after : List Char}
    {marks : List Mark} (h : piecesPassage n ps before text after marks) :
    ∀ mark ∈ marks, 2 * (n + 1) ≤ mark.slot := by
  induction ps generalizing n before text marks with
  | nil =>
      obtain ⟨-, rfl⟩ := h
      simp
  | cons p ps ih =>
      cases p with
      | text chars =>
          obtain ⟨_, _, _, _, rfl, rfl, ⟨rfl, rfl⟩, hrest⟩ := h
          rw [List.append_nil]
          exact ih hrest
      | literal kind chars =>
          obtain ⟨_, _, _, _, rfl, rfl, hliteral, hrest⟩ := h
          obtain ⟨value, -, -, rfl⟩ := literalPassage_iff.mp hliteral
          intro mark hmark
          rcases List.mem_append.mp hmark with hlater | hown
          · have hslot := ih hrest mark hlater
            omega
          · simp only [List.mem_cons, List.not_mem_nil, or_false] at hown
            rcases hown with rfl | rfl
            · exact Nat.le_succ _
            · exact Nat.le_refl _

/-- A text that pieces match has values in the places of the literals, and the groups remember
them. -/
theorem fills_of_piecesPassage {ps : List Piece} {n : Nat} {before text after : List Char}
    {marks : List Mark} (h : piecesPassage n ps before text after marks) :
    ∃ values, Fills ps values text ∧ ∀ i value, values[i]? = some value →
      groupText? (before ++ text ++ after) marks (n + i + 1) = some value := by
  induction ps generalizing n before text marks with
  | nil =>
      obtain ⟨rfl, rfl⟩ := h
      exact ⟨[], .nil, by simp⟩
  | cons p ps ih =>
      cases p with
      | text chars =>
          obtain ⟨_, right, _, _, rfl, rfl, ⟨rfl, rfl⟩, hrest⟩ := h
          obtain ⟨values, hfills, hgroups⟩ := ih hrest
          refine ⟨values, .text hfills, ?_⟩
          simpa using hgroups
      | literal kind chars =>
          obtain ⟨_, right, _, _, rfl, rfl, hliteral, hrest⟩ := h
          obtain ⟨value, hvalue, rfl, rfl⟩ := literalPassage_iff.mp hliteral
          obtain ⟨values, hfills, hgroups⟩ := ih hrest
          refine ⟨value :: values, .literal hvalue hfills, ?_⟩
          intro i found hfound
          cases i with
          | zero =>
              obtain rfl : value = found := by simpa using hfound
              -- The groups behind this one have larger numbers.
              rw [groupText?_append_right]
              · have hpair := groupText?_pair (before ++ kind.quotes) value
                  (kind.quotes ++ right ++ after) (n + 1)
                simpa [LiteralKind.written] using hpair
              · intro mark hmark
                have hslot := slot_of_piecesPassage hrest mark hmark
                omega
          | succ i =>
              apply groupText?_append_left
              have hgroup := hgroups i found (by simpa using hfound)
              rw [show n + (i + 1) + 1 = n + 1 + i + 1 by omega]
              simpa using hgroup

/-- Pieces match a text with any values in the places of the literals. -/
theorem accepts_of_fills {ps : List Piece} {values : List (List Char)} {text : List Char}
    (h : Fills ps values text) (n : Nat) (before after : List Char) :
    (piecesPassage n ps).Accepts before text after := by
  induction h generalizing n before with
  | nil => exact Passage.accepts_nil.mpr rfl
  | text hrest ih =>
      exact Passage.accepts_andThen.mpr ⟨_, _, rfl, Passage.accepts_text.mpr rfl, ih n _⟩
  | literal hvalue hrest ih =>
      exact Passage.accepts_andThen.mpr
        ⟨_, _, rfl, ⟨_, literalPassage_iff.mpr ⟨_, hvalue, rfl, rfl⟩⟩, ih (n + 1) _⟩

/-! The matcher of a generated pattern. -/

theorem generate_standard (text : String) :
    (Registry.standard.generate (some "regex") text).value =
      .ok (delimitedNotation.generate text) := by
  have hgenerator : Registry.standard.generator? (some "regex") = some delimitedNotation := rfl
  rw [Registry.generate, hgenerator]

/-- A generated pattern is compiled to an expression that has to match the whole text. -/
theorem compileWithin_standard (text : String) (limit : Option Nat) :
    ∃ registry,
      (Registry.standard.compileWithin limit (delimitedNotation.generate text).source).value =
        (registry, .ok (wholeMatcher limit ((pieces text.toList).flatMap expressionOf))) := by
  have hsource : (delimitedNotation.generate text).source =
      String.ofList (generate text.toList) := rfl
  have hturnip : turnipNotation.accepts (String.ofList (generate text.toList)) = false := by
    simp only [turnipNotation, turnipNotationBy, String.toList_ofList, isDelimited_generate,
      Bool.not_true]
  have hdelimited : delimitedNotation.accepts (String.ofList (generate text.toList)) = true := by
    simp only [delimitedNotation, delimitedNotationBy, String.toList_ofList, parts?_generate,
      Option.isSome_some]
  have hnotation : Registry.standard.notation? (String.ofList (generate text.toList)) =
      some delimitedNotation := by
    simp only [Registry.notation?, Registry.standard, List.find?_cons, hturnip, hdelimited]
  have hlookup : Registry.standard.lookup? (String.ofList (generate text.toList)) = none := rfl
  have htoRegex : delimitedNotation.toRegex (String.ofList (generate text.toList)) =
      String.ofList ('^' :: ((pieces text.toList).flatMap expressionOf ++ ['$'])) := by
    simp only [delimitedNotation, delimitedNotationBy, String.toList_ofList, toRegex_generate]
  have hvalue : (Registry.compileBy limit delimitedNotation
      (String.ofList (generate text.toList))).value =
        wholeMatcher limit ((pieces text.toList).flatMap expressionOf) :=
    congrArg (Matcher.ofSourceWithin limit) htoRegex
  rw [hsource, Registry.compileWithin, hlookup, hnotation, ← hvalue]
  exact ⟨_, rfl⟩

/-- What the groups of the pieces of a text remember in the text itself are the values of its
literals. -/
theorem groups_of_piecesPassage {text : List Char} {marks : List Mark}
    (h : piecesPassage 0 (pieces text) [] text [] marks) :
    (groupNames (pieces text)).zipIdx.map (fun (name, i) =>
      (name, groupText? text marks (i + 1))) =
        (literalValues text).map fun value => (none, some value) := by
  obtain ⟨values, hfills, hgroups⟩ := fills_of_piecesPassage h
  have hvalues : values = literalValues text :=
    hfills.values_eq (bounded_pieces text) (flatMap_chars_pieces text).symm
  subst hvalues
  apply List.ext_getElem
  · simp [groupNames, literalValues]
  · intro i hleft hright
    have hi : i < (literalValues text).length := by simpa using hright
    have hgroup := hgroups i _ (List.getElem?_eq_getElem hi)
    simp only [List.nil_append, List.append_nil, Nat.zero_add] at hgroup
    simp [groupNames, hgroup]

/-- The pattern that is generated from a step text has a matcher. Unless the matcher is degraded
because of its size, it matches the text, its arguments are the values of the literals in their
order, and it matches exactly the texts with other values in the places of the literals. -/
theorem compileWithin_generate (text : String) (limit : Option Nat) :
    ∃ pattern registry matcher,
      (Registry.standard.generate (some "regex") text).value = .ok pattern ∧
        (Registry.standard.compileWithin limit pattern.source).value = (registry, .ok matcher) ∧
        (limit = none → matcher.isDegraded = false) ∧
        (literalValues text.toList).length = pattern.placeholders ∧
        (matcher.isDegraded = false →
          matcher.isMatch text = true ∧
          matcher.arguments? text = some (Matcher.numbered (literalValues text.toList)) ∧
          ∀ other : String, matcher.isMatch other = true ↔
            ∃ values, Fills (pieces text.toList) values other.toList) := by
  obtain ⟨registry, hcompile⟩ := compileWithin_standard text limit
  have hdenotes := denotes_flatMap_expressionOf (pieces text.toList) 0
  have hnames := distinct_groupNames (pieces text.toList)
  refine ⟨_, registry, _, generate_standard text, hcompile, ?_,
    length_literalValues text.toList, fun hdegraded => ?_⟩
  · rintro rfl
    exact hdenotes.isDegraded_wholeMatcher hnames (by decide)
  · have hiff (other : String) :
        (wholeMatcher limit ((pieces text.toList).flatMap expressionOf)).isMatch other = true ↔
          ∃ values, Fills (pieces text.toList) values other.toList := by
      rw [hdenotes.isMatch_wholeMatcher hnames (by decide)]
      constructor
      · intro h
        obtain ⟨-, marks, hmatch⟩ := h
        obtain ⟨values, hfills, -⟩ := fills_of_piecesPassage hmatch
        exact ⟨values, hfills⟩
      · intro h
        obtain ⟨values, hfills⟩ := h
        exact ⟨hdegraded, accepts_of_fills hfills 0 [] []⟩
    have hmatch := (hiff text).mpr ⟨literalValues text.toList, by
      have hfills := (bounded_pieces text.toList).fills
      rwa [flatMap_chars_pieces] at hfills⟩
    refine ⟨hmatch, ?_, hiff⟩
    obtain ⟨marks, hmarks, harguments⟩ :=
      hdenotes.arguments?_wholeMatcher hnames (by decide) hmatch
    rw [harguments, groups_of_piecesPassage hmarks, Matcher.argumentsOf_unnamed]

/-! The size of a generated pattern. -/

def literalBytes : Nat := 10256

/-- The bytes that a character takes at most, if it is not in a literal. -/
def letterBytes : Nat := Expression.characterBytes + linkBytes

theorem mostBytes_decimalNumber :
    CharSet.mostBytes false Unicode.Category.decimalNumber = 10028 := by
  decide +kernel

theorem weighInOrder_literalTrees (kind : LiteralKind) (index : Nat) :
    Tree.WeighInOrder (literalTrees index kind) 0 literalBytes := by
  have hquoted {quote : Char} (hquote : quote = '"' ∨ quote = '\'') :
      Tree.WeighInOrder (enclosedTrees quote 0 index) 0 literalBytes := by
    have hmark := Tree.weighInOrder_plainTrees [quote]
    have hvalue := (Tree.weighs_capturedRun (t := .bracket true (.literal ⟨quote, false⟩))
      (s := Unicode.Ranges.compl (CharSet.single quote)) (by rcases hquote with rfl | rfl <;> rfl)
      (Nat.zero_le 1) index).inOrder
    rw [(CharSet.bytes_compl_single hquote).2] at hvalue
    rw [List.length_singleton] at hmark
    exact (hmark.append (hvalue.append hmark)).mono (by decide)
  cases kind with
  | doubleQuoted => exact hquoted (Or.inl rfl)
  | singleQuoted => exact hquoted (Or.inr rfl)
  | integer =>
      have hvalue := (Tree.weighs_capturedRun (t := .short false .digit)
        (s := Unicode.Category.decimalNumber) rfl (Nat.le_refl 1) index).inOrder
      rw [mostBytes_decimalNumber] at hvalue
      exact hvalue

theorem weighInOrder_piecesTrees (ps : List Piece) (n : Nat) :
    Tree.WeighInOrder (piecesTrees n ps) 0
      ((ps.filterMap Piece.value?).length * literalBytes +
        (ps.flatMap Piece.chars).length * letterBytes) := by
  induction ps generalizing n with
  | nil => exact Tree.weighInOrder_nil
  | cons p ps ih =>
      rw [List.flatMap_cons, List.length_append, Nat.add_mul]
      cases p with
      | text chars =>
          refine ((Tree.weighInOrder_plainTrees chars).append (ih n)).mono ?_
          rw [List.filterMap_cons_none (by rfl), Piece.chars, letterBytes]
          omega
      | literal kind chars =>
          refine ((weighInOrder_literalTrees kind (n + 1)).append (ih (n + 1))).mono ?_
          rw [List.filterMap_cons_some (by rfl), List.length_cons, Nat.succ_mul]
          omega

/-- The bytes that a pattern takes at most which is generated from a step text: those of its
literals, of its characters, and of what stands around them. -/
def generatedBytes (text : List Char) : Nat :=
  (literalValues text).length * literalBytes + text.length * letterBytes + wholeBytes

/-- The matcher of a generated pattern is not degraded because of its size if the literals and the
characters of the step text are few enough for the limit. -/
theorem isDegraded_generate (text : String) (limit : Nat)
    (h : generatedBytes text.toList ≤ limit) :
    ∃ registry matcher,
      (Registry.standard.compileWithin (some limit)
        (delimitedNotation.generate text).source).value = (registry, .ok matcher) ∧
        matcher.isDegraded = false := by
  obtain ⟨registry, hcompile⟩ := compileWithin_standard text (some limit)
  have hweigh := weighInOrder_piecesTrees (pieces text.toList) 0
  rw [flatMap_chars_pieces] at hweigh
  have hdepth : ∀ t ∈ piecesTrees 0 (pieces text.toList), t.depth .none < depthLimit :=
    fun t ht => Nat.lt_of_le_of_lt (depth_piecesTrees _ 0 t ht) (by decide)
  have hspells := spells_flatMap_expressionOf (pieces text.toList) 0
  exact ⟨registry, _, hcompile,
    (hspells.isDegraded_wholeMatcher (distinct_groupNames _) hdepth hweigh limit).1 h⟩

/-- The usual limit leaves room for hundreds of literals. -/
example (text : String) (hliterals : (literalValues text.toList).length ≤ 500)
    (hlength : text.length ≤ 10000) :
    ∃ registry matcher,
      (Registry.standard.compile (delimitedNotation.generate text).source).value =
        (registry, .ok matcher) ∧ matcher.isDegraded = false := by
  refine isDegraded_generate text Regex.sizeLimit ?_
  have hwhole : wholeBytes ≤ 512 := by decide
  have hletter : letterBytes = 308 := rfl
  rw [generatedBytes, literalBytes, hletter, String.length_toList, Regex.sizeLimit]
  omega

end Stepwise.Delimited
