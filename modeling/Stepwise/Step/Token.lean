import Stepwise.Unicode.Space

/-!
# Tokens of a step text

A literal is a value that an author typed into a step: a double-quoted span, a
single-quoted span or a run of digits. Quoted spans stand between white space or the
ends of the text; digits only need it before them. Main statements: a literal taken
from the front of a text is not empty, and together with what follows it is that
text.
-/

namespace Stepwise.Step

/-- The kinds of literals in the order in which they are looked for. A kind is only
found in the text that the kinds before it left over. -/
inductive LiteralKind
  | doubleQuoted
  | singleQuoted
  | integer
deriving DecidableEq, Repr

/-- A part of a step text: plain text, or a literal as it is written. -/
inductive Piece
  | text (chars : List Char)
  | literal (kind : LiteralKind) (chars : List Char)
deriving DecidableEq, Repr

def Piece.chars : Piece → List Char
  | .text chars => chars
  | .literal _ chars => chars

/-- A part of a step text of which the literals are numbered. -/
inductive Token
  | text (chars : List Char)
  | literal (kind : LiteralKind) (chars : List Char) (index : Nat)
deriving DecidableEq, Repr

def Token.chars : Token → List Char
  | .text chars => chars
  | .literal _ chars _ => chars

def Token.isLiteral : Token → Bool
  | .text _ => false
  | .literal .. => true

/-- Takes a span between two quotes from the front of a text. -/
def takeQuoted? (quote : Char) : List Char → Option (List Char × List Char)
  | [] => none
  | c :: rest =>
      if c = quote then
        match rest.takeWhile (· ≠ quote), rest.dropWhile (· ≠ quote) with
        | first :: inner, closing :: after => some (c :: first :: inner ++ [closing], after)
        | _, _ => none
      else none

def takeDigits? (text : List Char) : Option (List Char × List Char) :=
  let digits := text.takeWhile Char.isDigit
  if digits.isEmpty then none else some (digits, text.dropWhile Char.isDigit)

/-- Takes a literal of a kind from the front of a text, whatever is around it. -/
def LiteralKind.take? : LiteralKind → List Char → Option (List Char × List Char)
  | .doubleQuoted => takeQuoted? '"'
  | .singleQuoted => takeQuoted? '\''
  | .integer => takeDigits?

/-- Whether a literal may end at a character, or at the end of the text. -/
def isBoundary (neighbour : Option Char) : Bool :=
  neighbour.all Unicode.isSpace

/-- Takes a literal of a kind from the front of a text if its neighbours allow it.
`before` is the character before the text and `beyond` the one behind it. -/
def LiteralKind.takeBounded? (kind : LiteralKind) (before beyond : Option Char)
    (text : List Char) : Option (List Char × List Char) :=
  match kind.take? text with
  | none => none
  | some (literal, after) =>
      if isBoundary before && (kind = .integer || isBoundary (after.head?.or beyond)) then
        some (literal, after)
      else none

/-- Puts a character before the pieces that follow it. -/
def Piece.prepend (c : Char) : List Piece → List Piece
  | .text chars :: rest => .text (c :: chars) :: rest
  | rest => .text [c] :: rest

theorem takeQuoted?_append {quote : Char} {text literal after : List Char}
    (h : takeQuoted? quote text = some (literal, after)) :
    literal ++ after = text ∧ literal ≠ [] := by
  cases text with
  | nil => simp [takeQuoted?] at h
  | cons c rest =>
      have split := List.takeWhile_append_dropWhile (p := (· ≠ quote)) (l := rest)
      simp only [takeQuoted?] at h
      split at h
      · split at h
        · rename_i first inner closing follow htake hdrop
          rw [htake, hdrop] at split
          simp only [Option.some.injEq, Prod.mk.injEq] at h
          obtain ⟨rfl, rfl⟩ := h
          simp [← split]
        · exact absurd h (by simp)
      · exact absurd h (by simp)

theorem takeDigits?_append {text literal after : List Char}
    (h : takeDigits? text = some (literal, after)) :
    literal ++ after = text ∧ literal ≠ [] := by
  simp only [takeDigits?] at h
  split at h
  · exact absurd h (by simp)
  · rename_i hempty
    simp only [Option.some.injEq, Prod.mk.injEq] at h
    obtain ⟨rfl, rfl⟩ := h
    exact ⟨List.takeWhile_append_dropWhile, by simpa using hempty⟩

theorem LiteralKind.take?_append {kind : LiteralKind} {text literal after : List Char}
    (h : kind.take? text = some (literal, after)) :
    literal ++ after = text ∧ literal ≠ [] := by
  cases kind with
  | doubleQuoted => exact takeQuoted?_append h
  | singleQuoted => exact takeQuoted?_append h
  | integer => exact takeDigits?_append h

theorem LiteralKind.take?_of_takeBounded? {kind : LiteralKind}
    {before beyond : Option Char} {text : List Char} {found : List Char × List Char}
    (h : kind.takeBounded? before beyond text = some found) :
    kind.take? text = some found := by
  simp only [LiteralKind.takeBounded?] at h
  split at h
  · exact absurd h (by simp)
  · rename_i heq
    split at h
    · rw [heq, h]
    · exact absurd h (by simp)

theorem LiteralKind.length_after_lt {kind : LiteralKind} {before beyond : Option Char}
    {text literal after : List Char}
    (h : kind.takeBounded? before beyond text = some (literal, after)) :
    after.length < text.length := by
  obtain ⟨rfl, hne⟩ := take?_append (take?_of_takeBounded? h)
  have := List.length_pos_iff.mpr hne
  simp
  omega

/-- Cuts a text into literals of one kind and the text between them, trying every
place from left to right. -/
def cut (kind : LiteralKind) (before beyond : Option Char) : List Char → List Piece
  | [] => []
  | c :: rest =>
      match h : kind.takeBounded? before beyond (c :: rest) with
      | some (literal, after) =>
          have := LiteralKind.length_after_lt h
          .literal kind literal :: cut kind literal.getLast? beyond after
      | none => Piece.prepend c (cut kind (some c) beyond rest)
termination_by text => text.length
decreasing_by
  · exact this
  · exact Nat.lt_succ_self rest.length

/-- Cuts the plain text among some pieces further. -/
def refine (kind : LiteralKind) (before : Option Char) : List Piece → List Piece
  | [] => []
  | .literal other chars :: rest =>
      .literal other chars :: refine kind chars.getLast? rest
  | .text chars :: rest =>
      cut kind before (rest.head?.bind (·.chars.head?)) chars ++
        refine kind (chars.getLast?.or before) rest

def pieces (text : List Char) : List Piece :=
  refine .integer none (refine .singleQuoted none (refine .doubleQuoted none [.text text]))

def countKind (kind : LiteralKind) (ps : List Piece) : Nat :=
  ps.countP fun
    | .literal other _ => other = kind
    | .text _ => false

/-- Numbers literals in their order, separately for each kind; `next` tells the next
number of each kind. -/
def number (next : LiteralKind → Nat) : List Piece → List Token
  | [] => []
  | .text chars :: rest => .text chars :: number next rest
  | .literal kind chars :: rest =>
      .literal kind chars (next kind) ::
        number (fun other => if other = kind then next other + 1 else next other) rest

/-- The tokens of a step text. All double-quoted literals are numbered first, from
one on, then all single-quoted ones, then the integers. -/
def tokenize (text : List Char) : List Token :=
  let ps := pieces text
  let doubles := countKind .doubleQuoted ps
  let singles := countKind .singleQuoted ps
  number (fun
    | .doubleQuoted => 1
    | .singleQuoted => doubles + 1
    | .integer => doubles + singles + 1) ps

def literalCount (text : List Char) : Nat :=
  (tokenize text).countP Token.isLiteral

end Stepwise.Step
