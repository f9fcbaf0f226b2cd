import Mathlib.Data.List.TakeWhile
import Stepwise.Proofs.Unicode.Tables
import Stepwise.Step.Token

/-!
# Pieces of a step text

A literal is a value between quotes, or a run of digits that has none. Other values in
their places turn a step text into others. Main statements: the pieces of a text make it up,
a literal only stands at the start or behind white space, and no other values than those of
its literals make up the text itself.
-/

namespace Stepwise.Step

namespace LiteralKind

/-- What stands on either side of the value of a literal. -/
def quotes : LiteralKind → List Char
  | .doubleQuoted => ['"']
  | .singleQuoted => ['\'']
  | .integer => []

/-- Whether a value may be in the place of another one of a kind. -/
def Allows : LiteralKind → List Char → Prop
  | .doubleQuoted, value => '"' ∉ value
  | .singleQuoted, value => '\'' ∉ value
  | .integer, value => value ≠ [] ∧ ∀ c ∈ value, Unicode.Category.decimalNumber.has c = true

/-- A value as it is written in a text. -/
def written (kind : LiteralKind) (value : List Char) : List Char :=
  kind.quotes ++ value ++ kind.quotes

/-- The value of a literal that is written in a text. -/
def valueOf : LiteralKind → List Char → List Char
  | .doubleQuoted, chars => chars.tail.dropLast
  | .singleQuoted, chars => chars.tail.dropLast
  | .integer, chars => chars

@[simp] theorem valueOf_written (kind : LiteralKind) (value : List Char) :
    kind.valueOf (kind.written value) = value := by
  cases kind with
  | doubleQuoted => simp [written, quotes, valueOf]
  | singleQuoted => simp [written, quotes, valueOf]
  | integer => simp [written, quotes, valueOf]

/-- Whether some characters are a literal of a kind: a value that is not empty, as it is
written. -/
def Writes (kind : LiteralKind) (chars : List Char) : Prop :=
  ∃ value, value ≠ [] ∧ kind.Allows value ∧ chars = kind.written value

theorem Writes.ne_nil {kind : LiteralKind} {chars : List Char} (h : kind.Writes chars) :
    chars ≠ [] := by
  obtain ⟨value, hne, -, rfl⟩ := h
  simp [written, hne]

variable {kind : LiteralKind} {before beyond : Option Char} {text literal after : List Char}

theorem takeQuoted?_written {quote : Char}
    (h : takeQuoted? quote text = some (literal, after)) :
    ∃ value, value ≠ [] ∧ quote ∉ value ∧ literal = [quote] ++ value ++ [quote] := by
  cases text with
  | nil => simp [takeQuoted?] at h
  | cons c rest =>
      simp only [takeQuoted?] at h
      split at h
      · rename_i hc
        split at h
        · rename_i first inner closing follow htake hdrop
          simp only [Option.some.injEq, Prod.mk.injEq] at h
          have hvalue : quote ∉ first :: inner := by
            rw [← htake]
            intro hmem
            simpa using List.mem_takeWhile_imp hmem
          have hclosing : closing = quote := by
            have hhead := List.head?_dropWhile_not (· ≠ quote) rest
            rw [hdrop] at hhead
            simpa using hhead
          refine ⟨first :: inner, List.cons_ne_nil first inner, hvalue, ?_⟩
          rw [← h.1, hc, hclosing]
          rfl
        · exact absurd h (by simp)
      · exact absurd h (by simp)

/-- A literal that is taken is a value as it is written. -/
theorem writes_of_take? (h : kind.take? text = some (literal, after)) : kind.Writes literal := by
  cases kind with
  | doubleQuoted => exact takeQuoted?_written h
  | singleQuoted => exact takeQuoted?_written h
  | integer =>
      obtain ⟨-, hne⟩ := take?_append h
      simp only [take?, takeDigits?] at h
      split at h
      · exact absurd h (by simp)
      · simp only [Option.some.injEq, Prod.mk.injEq] at h
        refine ⟨literal, hne, ⟨hne, ?_⟩, by simp [written, quotes]⟩
        intro c hc
        rw [← h.1] at hc
        exact Unicode.has_decimalNumber_of_isDigit (List.mem_takeWhile_imp hc)

theorem isBoundary_of_takeBounded?
    (h : kind.takeBounded? before beyond text = some (literal, after)) :
    isBoundary before = true := by
  simp only [takeBounded?] at h
  split at h
  · exact absurd h (by simp)
  · split at h
    · rename_i hcond
      exact (Bool.and_eq_true_iff.mp hcond).1
    · exact absurd h (by simp)

end LiteralKind

/-- Each literal is a value as it is written, and stands behind white space or at the start of
the text. The first argument is the character before the pieces. -/
def Bounded : Option Char → List Piece → Prop
  | _, [] => True
  | before, .text chars :: rest => Bounded (chars.getLast?.or before) rest
  | before, .literal kind chars :: rest =>
      isBoundary before = true ∧ kind.Writes chars ∧ Bounded (chars.getLast?.or before) rest

variable {kind : LiteralKind} {before beyond : Option Char} {ps qs : List Piece}

/-- The last character of a text that is not empty does not depend on what is before it. -/
theorem getLast?_or_of_ne_nil {chars : List Char} (h : chars ≠ []) (before : Option Char) :
    chars.getLast?.or before = chars.getLast? := by
  rw [List.getLast?_eq_some_getLast h, Option.some_or]

theorem bounded_append :
    Bounded before (ps ++ qs) ↔
      Bounded before ps ∧ Bounded ((ps.flatMap Piece.chars).getLast?.or before) qs := by
  induction ps generalizing before with
  | nil => simp [Bounded]
  | cons p ps ih =>
      cases p with
      | text chars =>
          simp only [List.cons_append, Bounded, ih, List.flatMap_cons, Piece.chars,
            List.getLast?_append, Option.or_assoc]
      | literal kind chars =>
          simp only [List.cons_append, Bounded, ih, List.flatMap_cons, Piece.chars,
            List.getLast?_append, Option.or_assoc, and_assoc]

theorem flatMap_chars_prepend (c : Char) (ps : List Piece) :
    (Piece.prepend c ps).flatMap Piece.chars = c :: ps.flatMap Piece.chars := by
  cases ps with
  | nil => rfl
  | cons p ps =>
      cases p with
      | text chars => rfl
      | literal kind chars => rfl

theorem bounded_prepend {c : Char} (h : Bounded (some c) ps) :
    Bounded before (Piece.prepend c ps) := by
  cases ps with
  | nil => trivial
  | cons p ps =>
      cases p with
      | text chars =>
          rw [Piece.prepend, Bounded]
          rw [Bounded] at h
          cases hlast : chars.getLast? with
          | none => simpa [List.getLast?_eq_none_iff.mp hlast] using h
          | some last => simpa [List.getLast?_cons, hlast] using h
      | literal kind chars => exact h

/-- Cutting a text loses nothing. -/
theorem flatMap_chars_cut (kind : LiteralKind) (before beyond : Option Char) (text : List Char) :
    (cut kind before beyond text).flatMap Piece.chars = text := by
  fun_induction cut kind before beyond text with
  | case1 before => rfl
  | case2 before c rest literal after htake hlt ih =>
      rw [List.flatMap_cons, ih]
      exact (LiteralKind.take?_append (LiteralKind.take?_of_takeBounded? htake)).1
  | case3 before c rest htake ih => rw [flatMap_chars_prepend, ih]

theorem bounded_cut (kind : LiteralKind) (before beyond : Option Char) (text : List Char) :
    Bounded before (cut kind before beyond text) := by
  fun_induction cut kind before beyond text with
  | case1 before => trivial
  | case2 before c rest literal after htake hlt ih =>
      have hwrites := LiteralKind.writes_of_take? (LiteralKind.take?_of_takeBounded? htake)
      refine ⟨LiteralKind.isBoundary_of_takeBounded? htake, hwrites, ?_⟩
      rwa [getLast?_or_of_ne_nil hwrites.ne_nil]
  | case3 before c rest htake ih => exact bounded_prepend ih

/-- Cutting pieces further loses nothing. -/
theorem flatMap_chars_refine (kind : LiteralKind) (before : Option Char) (ps : List Piece) :
    (refine kind before ps).flatMap Piece.chars = ps.flatMap Piece.chars := by
  fun_induction refine kind before ps with
  | case1 => rfl
  | case2 before other chars rest ih => rw [List.flatMap_cons, List.flatMap_cons, ih]
  | case3 before chars rest ih =>
      rw [List.flatMap_append, flatMap_chars_cut, ih, List.flatMap_cons, Piece.chars]

theorem Bounded.refine (kind : LiteralKind) (h : Bounded before ps) :
    Bounded before (refine kind before ps) := by
  fun_induction Step.refine kind before ps with
  | case1 => trivial
  | case2 before other chars rest ih =>
      obtain ⟨hbefore, hwrites, hrest⟩ := h
      rw [getLast?_or_of_ne_nil hwrites.ne_nil] at hrest
      refine ⟨hbefore, hwrites, ?_⟩
      rw [getLast?_or_of_ne_nil hwrites.ne_nil]
      exact ih hrest
  | case3 before chars rest ih =>
      rw [bounded_append, flatMap_chars_cut]
      exact ⟨bounded_cut kind before _ chars, ih h⟩

/-- The pieces of a text make it up. -/
theorem flatMap_chars_pieces (text : List Char) : (pieces text).flatMap Piece.chars = text := by
  rw [pieces, flatMap_chars_refine, flatMap_chars_refine, flatMap_chars_refine]
  exact List.append_nil text

/-- The literals of a text stand at its start or behind white space. -/
theorem bounded_pieces (text : List Char) : Bounded none (pieces text) := by
  have htext : Bounded none [.text text] := trivial
  exact ((htext.refine .doubleQuoted).refine .singleQuoted).refine .integer

def Piece.value? : Piece → Option (List Char)
  | .text _ => none
  | .literal kind chars => some (kind.valueOf chars)

def literalValues (text : List Char) : List (List Char) :=
  (pieces text).filterMap Piece.value?

theorem countP_isLiteral_number (next : LiteralKind → Nat) (ps : List Piece) :
    (number next ps).countP Token.isLiteral = (ps.filterMap Piece.value?).length := by
  induction ps generalizing next with
  | nil => rfl
  | cons p ps ih =>
      cases p with
      | text chars => exact ih next
      | literal kind chars =>
          rw [number, List.countP_cons_of_pos rfl, ih]
          rfl

/-- Each literal of a text has a value. -/
theorem length_literalValues (text : List Char) :
    (literalValues text).length = literalCount text :=
  (countP_isLiteral_number _ (pieces text)).symm

/-- A text is made of pieces with values in the places of their literals. -/
inductive Fills : List Piece → List (List Char) → List Char → Prop
  | nil : Fills [] [] []
  | text {chars : List Char} {ps : List Piece} {values : List (List Char)} {after : List Char}
      (rest : Fills ps values after) : Fills (.text chars :: ps) values (chars ++ after)
  | literal {kind : LiteralKind} {chars value : List Char} {ps : List Piece}
      {values : List (List Char)} {after : List Char} (allowed : kind.Allows value)
      (rest : Fills ps values after) :
      Fills (.literal kind chars :: ps) (value :: values) (kind.written value ++ after)

/-- The values of the literals make up the text that the pieces make up. -/
theorem Bounded.fills (h : Bounded before ps) :
    Fills ps (ps.filterMap Piece.value?) (ps.flatMap Piece.chars) := by
  induction ps generalizing before with
  | nil => exact .nil
  | cons p ps ih =>
      cases p with
      | text chars => exact .text (ih h)
      | literal kind chars =>
          obtain ⟨-, ⟨value, -, hvalue, rfl⟩, hrest⟩ := h
          rw [List.filterMap_cons, Piece.value?, LiteralKind.valueOf_written, List.flatMap_cons,
            Piece.chars]
          exact .literal hvalue (ih hrest)

/-- A run without white space goes on the same way behind some characters if it does so behind
the last one of them, which is no white space then. -/
theorem takeWhile_append_congr {p : Char → Bool}
    (hp : ∀ c, p c = true → Unicode.isSpace c = false) {chars after behind : List Char}
    (hbefore : isBoundary before = false)
    (h : isBoundary (chars.getLast?.or before) = false → after.takeWhile p = behind.takeWhile p) :
    (chars ++ after).takeWhile p = (chars ++ behind).takeWhile p := by
  rw [List.takeWhile_append, List.takeWhile_append]
  split
  · rename_i hall
    have hrun : ∀ c ∈ chars, p c = true := by
      rw [← (List.takeWhile_sublist _).eq_of_length hall]
      exact fun c hc => List.mem_takeWhile_imp hc
    congr 1
    apply h
    cases hlast : chars.getLast? with
    | none => exact hbefore
    | some last => exact hp last (hrun last (List.mem_of_getLast? hlast))
  · rfl

/-- Behind a character that is no white space, other values leave the digits that come first as
they are, since there is no literal before some white space. -/
theorem Fills.takeWhile_eq {values : List (List Char)} {text : List Char}
    (h : Fills ps values text) (hbounded : Bounded before ps)
    (hbefore : isBoundary before = false) :
    text.takeWhile Unicode.Category.decimalNumber.has =
      (ps.flatMap Piece.chars).takeWhile Unicode.Category.decimalNumber.has := by
  induction h generalizing before with
  | nil => rfl
  | @text chars ps values after hrest ih =>
      rw [List.flatMap_cons, Piece.chars]
      exact takeWhile_append_congr (fun _ => Unicode.isSpace_of_has_decimalNumber) hbefore
        fun hlast => ih hbounded hlast
  | literal allowed hrest ih => exact absurd hbounded.1 (by simp [hbefore])

/-- A value without quotes ends at the first one. -/
theorem append_cons_inj_of_not_mem {quote : Char} {value other after behind : List Char}
    (hvalue : quote ∉ value) (hother : quote ∉ other)
    (h : value ++ quote :: after = other ++ quote :: behind) :
    value = other ∧ after = behind := by
  have htake (cs : List Char) (hcs : quote ∉ cs) (rest : List Char) :
      (cs ++ quote :: rest).takeWhile (· ≠ quote) = cs := by
    rw [List.takeWhile_append_of_pos]
    · simp
    · intro c hc
      exact decide_eq_true fun heq => hcs (heq ▸ hc)
  have heq : value = other := by rw [← htake value hvalue after, h, htake other hother behind]
  subst heq
  simpa using h

/-- Digits end where the same digits follow them on either side. -/
theorem append_inj_of_takeWhile_eq {p : Char → Bool} {value other after behind : List Char}
    (hvalue : ∀ c ∈ value, p c = true) (hother : ∀ c ∈ other, p c = true)
    (htake : after.takeWhile p = behind.takeWhile p) (h : value ++ after = other ++ behind) :
    value = other ∧ after = behind := by
  have hwhile := congrArg (List.takeWhile p) h
  rw [List.takeWhile_append_of_pos hvalue, List.takeWhile_append_of_pos hother, htake] at hwhile
  have heq : value = other := List.append_cancel_right hwhile
  subst heq
  exact ⟨rfl, List.append_cancel_left h⟩

/-- Only the values of the literals make up the text that the pieces make up. -/
theorem Fills.values_eq {values : List (List Char)} {text : List Char}
    (h : Fills ps values text) (hbounded : Bounded before ps)
    (htext : text = ps.flatMap Piece.chars) : values = ps.filterMap Piece.value? := by
  induction h generalizing before with
  | nil => rfl
  | text hrest ih => exact ih hbounded (List.append_cancel_left htext)
  | @literal kind chars value ps values after hvalue hrest ih =>
      obtain ⟨-, ⟨original, -, horiginal, rfl⟩, hbounded⟩ := hbounded
      rw [List.flatMap_cons, Piece.chars] at htext
      have hboth : value = original ∧ after = ps.flatMap Piece.chars := by
        cases kind with
        | doubleQuoted =>
            apply append_cons_inj_of_not_mem hvalue horiginal
            simpa [LiteralKind.written, LiteralKind.quotes] using htext
        | singleQuoted =>
            apply append_cons_inj_of_not_mem hvalue horiginal
            simpa [LiteralKind.written, LiteralKind.quotes] using htext
        | integer =>
            -- The text behind the literal may begin with digits that are no literal.
            have hdigits : LiteralKind.written .integer original = original := List.append_nil _
            apply append_inj_of_takeWhile_eq hvalue.2 horiginal.2
            · apply hrest.takeWhile_eq hbounded
              rw [hdigits, List.getLast?_eq_some_getLast horiginal.1, Option.some_or]
              exact Unicode.isSpace_of_has_decimalNumber
                (horiginal.2 _ (List.getLast_mem horiginal.1))
            · simpa [LiteralKind.written, LiteralKind.quotes] using htext
      rw [List.filterMap_cons, Piece.value?, LiteralKind.valueOf_written, hboth.1,
        ih hbounded hboth.2]

end Stepwise.Step
