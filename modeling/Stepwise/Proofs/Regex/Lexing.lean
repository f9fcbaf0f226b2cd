import Mathlib.Data.Bool.AllAny
import Stepwise.Proofs.Unicode.Covering
import Stepwise.Regex.Lexeme

/-!
# Reading the parts of an expression

What a part of an expression is cut into depends on what follows it only where a question
mark or a brace could follow. Main statement: outside of verbose mode, parts that are not
followed by these are cut one after the other. The parts of the expressions that stand for
patterns are listed with their lexemes.
-/

namespace Stepwise.Regex

/-- No question mark and no brace comes first. -/
def Separate (source : List Char) : Prop :=
  ∀ c ∈ source.head?, c ≠ '?' ∧ c ≠ '\x7b'

/-- Blanks are not skipped, neither now nor once an open group is closed. -/
def LexicalMode.Plain (mode : LexicalMode) : Prop :=
  mode.verbose = false ∧ ∀ verbose ∈ mode.outer, verbose = false

/-- A part is cut into lexemes, whatever stands behind it, as long as it is separate. -/
def Lexes (source : List Char) (ls : List Lexeme) : Prop :=
  ∀ mode rest, mode.Plain → Separate rest →
    ∃ mode', mode'.Plain ∧ lexemes mode (source ++ rest) = (lexemes mode' rest).map (ls ++ ·)

variable {source left right : List Char} {ls ms : List Lexeme}

theorem separate_nil : Separate [] := by
  intro c hc
  exact absurd hc (by simp)

theorem separate_cons {c : Char} (h : c ≠ '?' ∧ c ≠ '\x7b') (rest : List Char) :
    Separate (c :: rest) := by
  intro d hd
  rw [List.head?_cons, Option.mem_some_iff] at hd
  rwa [← hd]

theorem Separate.append (hleft : Separate left) (hright : Separate right) :
    Separate (left ++ right) := by
  cases left with
  | nil => exact hright
  | cons c left => exact separate_cons (hleft c (by simp)) _

/-- Lexemes other than flag settings. -/
def Lexeme.IsPlain : Lexeme → Prop
  | .flags _ => False
  | .openGroup (.plain change) => change = []
  | _ => True

theorem LexicalMode.Plain.after {mode : LexicalMode} (h : mode.Plain) {l : Lexeme}
    (hl : l.IsPlain) : (mode.after l).Plain := by
  obtain ⟨hverbose, houter⟩ := h
  cases l with
  | flags change => exact absurd hl (by simp [Lexeme.IsPlain])
  | openGroup kind =>
      cases kind with
      | capture name =>
          refine ⟨hverbose, fun verbose hmem => ?_⟩
          rcases List.mem_cons.mp hmem with rfl | hmem
          · exact hverbose
          · exact houter verbose hmem
      | plain change =>
          have hchange : change = [] := hl
          subst hchange
          refine ⟨hverbose, fun verbose hmem => ?_⟩
          rcases List.mem_cons.mp hmem with rfl | hmem
          · exact hverbose
          · exact houter verbose hmem
  | closeGroup =>
      obtain ⟨verbose, outer⟩ := mode
      cases outer with
      | nil => exact ⟨hverbose, houter⟩
      | cons first outer =>
          exact ⟨houter first List.mem_cons_self,
            fun v hv => houter v (List.mem_cons_of_mem first hv)⟩
  | atom tree => exact ⟨hverbose, houter⟩
  | bar => exact ⟨hverbose, houter⟩
  | repetition min max isLazy => exact ⟨hverbose, houter⟩

/-- The first lexeme comes in front of those of what is left. -/
theorem lexemes_of_read {mode : LexicalMode} {l : Lexeme} {rest : List Char}
    (hmode : mode.Plain) (hsource : source ≠ [])
    (hread : Lexeme.read false (source ++ rest) = .ok (l, rest)) :
    lexemes mode (source ++ rest) = (lexemes (mode.after l) rest).map (l :: ·) := by
  have hlength : rest.length < (source ++ rest).length := by
    rw [List.length_append]
    have hpos := List.length_pos_iff.mpr hsource
    omega
  cases source with
  | nil => exact absurd rfl hsource
  | cons c source =>
      rw [List.cons_append] at hread hlength ⊢
      rw [lexemes, hmode.1, skipBlanks_false]
      simp only [hread, hlength, ↓reduceIte]

theorem lexes_nil : Lexes [] [] := by
  intro mode rest hmode hrest
  refine ⟨mode, hmode, ?_⟩
  cases h : lexemes mode rest with
  | ok ls => rw [List.nil_append, h]; rfl
  | error fault => rw [List.nil_append, h]; rfl

theorem map_append_map (ls ms : List Lexeme) (x : Except Fault (List Lexeme)) :
    (x.map (ms ++ ·)).map (ls ++ ·) = x.map ((ls ++ ms) ++ ·) := by
  cases x with
  | ok ks => simp [Except.map]
  | error fault => rfl

/-- Parts are cut one after the other. -/
theorem Lexes.append (hleft : Lexes left ls) (hright : Lexes right ms)
    (hseparate : Separate right) : Lexes (left ++ right) (ls ++ ms) := by
  intro mode rest hmode hrest
  obtain ⟨between, hbetween, hls⟩ := hleft mode (right ++ rest) hmode (hseparate.append hrest)
  obtain ⟨after, hafter, hms⟩ := hright between rest hbetween hrest
  refine ⟨after, hafter, ?_⟩
  rw [List.append_assoc, hls, hms, map_append_map]

theorem lexes_of_read {l : Lexeme} (hl : l.IsPlain) (hsource : source ≠ [])
    (hread : ∀ rest, Separate rest → Lexeme.read false (source ++ rest) = .ok (l, rest)) :
    Lexes source [l] := by
  intro mode rest hmode hrest
  exact ⟨mode.after l, hmode.after hl, lexemes_of_read hmode hsource (hread rest hrest)⟩

/-- All of a text is cut into lexemes. -/
theorem Lexes.lexemes_eq (h : Lexes source ls) : lexemes {} source = .ok ls := by
  obtain ⟨mode, hmode, heq⟩ := h {} [] ⟨rfl, by simp⟩ separate_nil
  have hnil : lexemes mode [] = .ok [] := by
    rw [lexemes, hmode.1, skipBlanks_false]
  rw [List.append_nil, hnil] at heq
  rw [heq]
  simp [Except.map]

/-! Characters, classes and assertions. -/

/-- The characters that do not stand for themselves outside of classes. -/
def metacharacters : List Char :=
  ['(', ')', '|', '[', '?', '*', '+', '\x7b', '\\', '.', '^', '$']

theorem isSpecial_of_mem_metacharacters : ∀ c ∈ metacharacters, isSpecial c = true :=
  List.all_iff_forall_prop.mp (by decide)

/-- A character without a meaning of its own stands for itself. -/
theorem Lexeme.read_literal {c : Char} (hc : c ∉ metacharacters) (verbose : Bool)
    (rest : List Char) :
    Lexeme.read verbose (c :: rest) = .ok (.atom (.literal ⟨c, false⟩), rest) := by
  simp only [metacharacters, List.mem_cons, List.not_mem_nil, or_false, not_or] at hc
  unfold Lexeme.read
  split <;> simp_all

theorem lexes_literal {c : Char} (hc : c ∉ metacharacters) :
    Lexes [c] [.atom (.literal ⟨c, false⟩)] :=
  lexes_of_read (by trivial) (List.cons_ne_nil c []) fun rest _ => Lexeme.read_literal hc false rest

theorem lexes_escape {c : Char} {e : Escape}
    (hread : ∀ rest, Separate rest → Escape.read false (c :: rest) = .ok (e, rest)) :
    Lexes ['\\', c] [.atom e.toTree] := by
  apply lexes_of_read (by trivial) (List.cons_ne_nil _ _)
  intro rest hrest
  change (Escape.read false (c :: rest)).map _ = _
  rw [hread rest hrest]
  rfl

/-- A character behind a backslash stands for itself, if the backslash is allowed. -/
theorem lexes_quoted {c : Char} (hc : isSpecial c = true ∨ isQuotable c = true) :
    Lexes ['\\', c] [.atom (.literal ⟨c, false⟩)] := by
  apply lexes_escape (e := .literal ⟨c, false⟩)
  intro rest hrest
  exact if_pos (by simpa using hc)

theorem lexes_digits : Lexes ['\\', 'd'] [.atom (.short false .digit)] :=
  lexes_escape (e := .short false .digit) fun _ _ => rfl

theorem lexes_word : Lexes ['\\', 'w'] [.atom (.short false .word)] :=
  lexes_escape (e := .short false .word) fun _ _ => rfl

/-- A brace behind a word boundary would give it another name. -/
theorem lexes_boundary : Lexes ['\\', 'b'] [.atom (.anchor (.edge .boundary))] := by
  apply lexes_escape (e := .anchor (.edge .boundary))
  intro rest hrest
  change (boundaryName false rest).map _ = _
  cases rest with
  | nil => rfl
  | cons c rest =>
      have hc : c ≠ '\x7b' := (hrest c (by simp)).2
      unfold boundaryName
      split
      · rename_i heq
        exact absurd (List.cons.inj heq).1 hc
      · rfl

theorem lexes_start : Lexes ['^'] [.atom (.anchor .lineStart)] :=
  lexes_of_read (by trivial) (List.cons_ne_nil _ _) fun _ _ => rfl

theorem lexes_end : Lexes ['$'] [.atom (.anchor .lineEnd)] :=
  lexes_of_read (by trivial) (List.cons_ne_nil _ _) fun _ _ => rfl

section Brackets

variable {c : Char} {rest : List Char} (hc : c ∉ ['[', ']', '\\', '-', '&', '~'])

include hc

theorem openBracket_allBut :
    openBracket false ('^' :: c :: ']' :: rest) = .ok (true, [], c :: ']' :: rest) := by
  simp only [List.mem_cons, List.not_mem_nil, or_false, not_or] at hc
  simp only [openBracket, skipBlanks_false, leadingHyphens, hc.2.2.2.1, Bool.false_and,
    Bool.false_eq_true, ↓reduceIte]
  split <;> simp_all

theorem classRange_allBut :
    classRange false (c :: ']' :: rest) = .ok (.literal ⟨c, false⟩, ']' :: rest) := by
  simp only [List.mem_cons, List.not_mem_nil, or_false, not_or] at hc
  have hitem : classItem false (c :: ']' :: rest) = .ok (.literal ⟨c, false⟩, ']' :: rest) := by
    unfold classItem
    split <;> simp_all
  unfold classRange
  rw [hitem]
  rfl

theorem step_allBut (reader : BracketReader) :
    reader.step false (c :: ']' :: rest) =
      .ok (.more (reader.add (.literal ⟨c, false⟩)) (']' :: rest)) := by
  have hrange : classRange false (c :: ']' :: rest) = _ := classRange_allBut hc
  simp only [List.mem_cons, List.not_mem_nil, or_false, not_or] at hc
  unfold BracketReader.step
  split <;> simp_all

/-- The class of all characters but one. -/
theorem lexes_allBut : Lexes ['[', '^', c, ']'] [.atom (.bracket true (.literal ⟨c, false⟩))] := by
  apply lexes_of_read (by trivial) (List.cons_ne_nil _ _)
  intro rest hrest
  have hread : readBracket false ('^' :: c :: ']' :: rest) =
      .ok (true, .literal ⟨c, false⟩, rest) := by
    unfold readBracket
    rw [openBracket_allBut hc]
    change BracketReader.run false _ (c :: ']' :: rest) = _
    rw [BracketReader.run, skipBlanks_false, step_allBut hc]
    simp only [List.length_cons, Nat.lt_add_one, ↓reduceIte]
    rw [BracketReader.run]
    rfl
  change (readBracket false ('^' :: c :: ']' :: rest)).map _ = _
  rw [hread]
  rfl

end Brackets

/-! Groups and repetitions. -/

theorem lexes_open : Lexes ['(', '?', ':'] [.openGroup (.plain [])] :=
  lexes_of_read rfl (List.cons_ne_nil _ _) fun _ _ => rfl

theorem lexes_close : Lexes [')'] [.closeGroup] :=
  lexes_of_read (by trivial) (List.cons_ne_nil _ _) fun _ _ => rfl

theorem lexes_bar : Lexes ['|'] [.bar] :=
  lexes_of_read (by trivial) (List.cons_ne_nil _ _) fun _ _ => rfl

theorem readLazy_of_separate {rest : List Char} (h : Separate rest) :
    readLazy rest = (false, rest) := by
  cases rest with
  | nil => rfl
  | cons c rest =>
      have hc : c ≠ '?' := (h c (by simp)).1
      unfold readLazy
      split
      · rename_i heq
        exact absurd (List.cons.inj heq).1 hc
      · rfl

theorem lexes_star : Lexes ['*'] [.repetition 0 none false] := by
  apply lexes_of_read (by trivial) (List.cons_ne_nil _ _)
  intro rest hrest
  change Except.ok (Lexeme.repetition 0 none (readLazy rest).1, (readLazy rest).2) = _
  rw [readLazy_of_separate hrest]

theorem lexes_plus : Lexes ['+'] [.repetition 1 none false] := by
  apply lexes_of_read (by trivial) (List.cons_ne_nil _ _)
  intro rest hrest
  change Except.ok (Lexeme.repetition 1 none (readLazy rest).1, (readLazy rest).2) = _
  rw [readLazy_of_separate hrest]

/-- A group may be followed by a question mark, which makes it optional. -/
theorem lexes_closeOptional : Lexes [')', '?'] [.closeGroup, .repetition 0 (some 1) false] := by
  intro mode rest hmode hrest
  have hclose : Lexeme.read false ([')'] ++ '?' :: rest) = .ok (.closeGroup, '?' :: rest) := rfl
  have hoptional : Lexeme.read false (['?'] ++ rest) = .ok (.repetition 0 (some 1) false, rest) := by
    change Except.ok (Lexeme.repetition 0 (some 1) (readLazy rest).1, (readLazy rest).2) = _
    rw [readLazy_of_separate hrest]
  have hclosed : (mode.after .closeGroup).Plain := hmode.after trivial
  refine ⟨_, hclosed.after (l := .repetition 0 (some 1) false) trivial, ?_⟩
  change lexemes mode ([')'] ++ '?' :: rest) = _
  rw [lexemes_of_read hmode (List.cons_ne_nil _ _) hclose]
  change (lexemes _ (['?'] ++ rest)).map _ = _
  rw [lexemes_of_read hclosed (List.cons_ne_nil _ _) hoptional]
  exact map_append_map [.closeGroup] [.repetition 0 (some 1) false] _

/-- A question mark behind the parenthesis would open a group of another kind. -/
theorem lexes_capture : Lexes ['('] [.openGroup (.capture none)] := by
  apply lexes_of_read (by trivial) (List.cons_ne_nil _ _)
  intro rest hrest
  change readGroup false rest = _
  cases rest with
  | nil => rfl
  | cons c rest =>
      have hc : c ≠ '?' := (hrest c (by simp)).1
      unfold readGroup
      rw [skipBlanks_false]
      split <;> simp_all

structure IsGroupName (name : List Char) : Prop where
  start : ∃ c ∈ name.head?, isNameStart c = true
  others : ∀ c ∈ name.tail, isNameCharacter c = true
  closed : '>' ∉ name

theorem lexes_named {name : List Char} (h : IsGroupName name) :
    Lexes ('(' :: '?' :: 'P' :: '<' :: name ++ ['>'])
      [.openGroup (.capture (some (String.ofList name)))] := by
  apply lexes_of_read (by trivial) (List.cons_ne_nil _ _)
  intro rest hrest
  obtain ⟨first, hfirst, hstart⟩ := h.start
  obtain ⟨others, rfl⟩ : ∃ others, name = first :: others := by
    cases name with
    | nil => exact absurd hfirst (by simp)
    | cons c others => exact ⟨others, by rw [Option.mem_some_iff.mp hfirst]⟩
  have hopen : ∀ c ∈ first :: others, decide (c ≠ '>') = true := by
    intro c hc
    rw [decide_eq_true_eq]
    exact fun heq => h.closed (heq ▸ hc)
  have hread : readGroupName (first :: others ++ '>' :: rest) =
      .ok (String.ofList (first :: others), rest) := by
    unfold readGroupName
    rw [List.takeWhile_append_of_pos hopen, List.dropWhile_append_of_pos hopen]
    simp only [List.takeWhile_cons, List.dropWhile_cons, ne_eq, not_true_eq_false, decide_false,
      Bool.false_eq_true, ↓reduceIte, List.append_nil]
    rw [if_pos]
    rw [hstart, Bool.true_and, List.all_eq_true]
    exact h.others
  change (readGroupName (first :: others ++ ['>'] ++ rest)).map _ = _
  rw [List.append_assoc, List.singleton_append, hread]
  rfl

end Stepwise.Regex
