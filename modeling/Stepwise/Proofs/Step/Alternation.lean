import Stepwise.Proofs.Step.Recognition

/-!
# Text and literals in turn

No two literals of a step text stand directly one after the other, since a literal stands behind
white space and does not end with any. Main statement: the tokens of a text make it up, none is
empty, text and literals take turns, and the literals are numbered kind by kind.
-/

namespace Stepwise.Step

variable {kind : LiteralKind} {before : Option Char} {ps : List Piece}

/-- A literal does not end with white space. -/
theorem LiteralKind.Writes.isBoundary_getLast? {chars : List Char} (h : kind.Writes chars) :
    isBoundary chars.getLast? = false := by
  obtain ⟨value, hne, hallowed, rfl⟩ := h
  cases kind with
  | doubleQuoted =>
      rw [written, quotes, List.getLast?_concat]
      rfl
  | singleQuoted =>
      rw [written, quotes, List.getLast?_concat]
      rfl
  | integer =>
      have hdigits : written .integer value = value := List.append_nil _
      rw [hdigits, List.getLast?_eq_some_getLast hne]
      exact Unicode.isSpace_of_has_decimalNumber (hallowed.2 _ (List.getLast_mem hne))

/-- Behind a literal there is no literal. -/
theorem Bounded.not_literal_head? (h : Bounded before ps) (hbefore : isBoundary before = false) :
    ∀ p ∈ ps.head?, p.isLiteral = false := by
  intro p hp
  cases ps with
  | nil => exact absurd hp (by simp)
  | cons q ps =>
      rw [List.head?_cons, Option.mem_some_iff] at hp
      subst hp
      cases q with
      | text chars => rfl
      | literal kind chars => exact absurd h.1 (by simp [hbefore])

/-- Of two pieces next to each other, one is text. -/
theorem Bounded.isChain (h : Bounded before ps) :
    ps.IsChain fun p q => p.isLiteral = true → q.isLiteral = false := by
  induction ps generalizing before with
  | nil => exact List.isChain_nil
  | cons p ps ih =>
      cases p with
      | text chars => exact List.isChain_cons.mpr ⟨fun q _ => nofun, ih h⟩
      | literal kind chars =>
          obtain ⟨-, hwrites, hrest⟩ := h
          rw [getLast?_or_of_ne_nil hwrites.ne_nil] at hrest
          have hhead := hrest.not_literal_head? hwrites.isBoundary_getLast?
          exact List.isChain_cons.mpr ⟨fun q hq _ => hhead q hq, ih hrest⟩

/-- The pieces of a text are text and literals in turn. -/
theorem isChain_pieces (text : List Char) :
    (pieces text).IsChain fun p q => p.isLiteral ≠ q.isLiteral := by
  have hparted : Parted (pieces text) := (recognized_pieces text).parted
  rw [List.isChain_iff_getElem]
  intro i hi heq
  have htext := List.isChain_iff_getElem.mp (bounded_pieces text).isChain i hi
  rcases List.isChain_iff_getElem.mp hparted i hi with hp | hq
  · rw [← heq, hp] at htext
    exact absurd (htext rfl) (by simp)
  · rw [heq, hq] at htext
    exact absurd (htext rfl) (by simp)

theorem map_isLiteral_number (next : LiteralKind → Nat) (ps : List Piece) :
    (number next ps).map Token.isLiteral = ps.map Piece.isLiteral := by
  induction ps generalizing next with
  | nil => rfl
  | cons p ps ih =>
      cases p with
      | text chars => exact congrArg (List.cons false) (ih next)
      | literal kind chars => exact congrArg (List.cons true) (ih _)

theorem map_chars_number (next : LiteralKind → Nat) (ps : List Piece) :
    (number next ps).map Token.chars = ps.map Piece.chars := by
  induction ps generalizing next with
  | nil => rfl
  | cons p ps ih =>
      cases p with
      | text chars => exact congrArg (List.cons chars) (ih next)
      | literal kind chars => exact congrArg (List.cons chars) (ih _)

/-- The tokens of a text make it up, and none of them is empty. Text and literals take turns. The
literals are numbered from one on: first the double-quoted ones in their order, then the
single-quoted ones, then the integers. -/
theorem tokenize_takes_turns (text : List Char) :
    (tokenize text).flatMap Token.chars = text ∧
      (∀ t ∈ tokenize text, t.chars ≠ []) ∧
      (tokenize text).IsChain (fun t u => t.isLiteral ≠ u.isLiteral) ∧
      (tokenize text).filterMap (Token.indexOf? .doubleQuoted) ++
          ((tokenize text).filterMap (Token.indexOf? .singleQuoted) ++
            (tokenize text).filterMap (Token.indexOf? .integer)) =
        List.range' 1 ((tokenize text).countP Token.isLiteral) := by
  refine ⟨flatMap_chars_tokenize text, ?_, ?_, append_indexOf?_tokenize text⟩
  · intro t ht
    have hchars : t.chars ∈ (pieces text).map Piece.chars := by
      rw [← map_chars_number]
      exact List.mem_map_of_mem ht
    obtain ⟨p, hp, heq⟩ := List.mem_map.mp hchars
    rw [← heq]
    exact ne_nil_of_mem_pieces text p hp
  · have hpieces := (List.isChain_map Piece.isLiteral (R := (· ≠ ·))).mpr (isChain_pieces text)
    rw [← map_isLiteral_number] at hpieces
    exact (List.isChain_map Token.isLiteral).mp hpieces

/-- A quotation takes its number before the digits that stand further left. -/
example : tokenize "5 'a'".toList =
    [.literal .integer ['5'] 2, .text [' '], .literal .singleQuoted ['\'', 'a', '\''] 1] := by
  cbv

end Stepwise.Step
