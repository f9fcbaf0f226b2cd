import Mathlib.Data.List.Perm.Basic
import Mathlib.Data.List.Range
import Stepwise.Proofs.Step.Pieces

/-!
# Tokens of a step text

What is around the literals of a step text, and how they are numbered. Main statements: a
quoted literal only stands before white space or at the end, no piece is empty, and the numbers
of the literals are those from one on, each kind in a row.
-/

namespace Stepwise.Step

variable {kind : LiteralKind} {before beyond : Option Char} {ps qs : List Piece}

/-! The end of a quoted literal. -/

/-- Each quoted literal stands before white space or at the end of the text. The first argument
is the character behind the pieces. -/
def Closed (beyond : Option Char) : List Piece → Prop
  | [] => True
  | .text _ :: rest => Closed beyond rest
  | .literal kind _ :: rest =>
      (kind = .integer ∨ isBoundary ((rest.flatMap Piece.chars).head?.or beyond) = true) ∧
        Closed beyond rest

theorem closed_append :
    Closed beyond (ps ++ qs) ↔
      Closed ((qs.flatMap Piece.chars).head?.or beyond) ps ∧ Closed beyond qs := by
  induction ps with
  | nil => simp [Closed]
  | cons p ps ih =>
      cases p with
      | text chars => exact ih
      | literal kind chars =>
          simp only [List.cons_append, Closed, ih, List.flatMap_append, List.head?_append,
            Option.or_assoc, and_assoc]

theorem closed_prepend {c : Char} (h : Closed beyond ps) : Closed beyond (Piece.prepend c ps) := by
  cases ps with
  | nil => trivial
  | cons p ps =>
      cases p with
      | text chars => exact h
      | literal kind chars => exact h

theorem LiteralKind.isBoundary_behind_of_takeBounded? {text literal after : List Char}
    (h : kind.takeBounded? before beyond text = some (literal, after)) :
    kind = .integer ∨ isBoundary (after.head?.or beyond) = true := by
  simp only [takeBounded?] at h
  split at h
  · exact absurd h (by simp)
  · split at h
    · rename_i hcond
      obtain ⟨rfl, rfl⟩ := Prod.mk.inj (Option.some.inj h)
      simpa using (Bool.and_eq_true_iff.mp hcond).2
    · exact absurd h (by simp)

theorem closed_cut (kind : LiteralKind) (before beyond : Option Char) (text : List Char) :
    Closed beyond (cut kind before beyond text) := by
  fun_induction cut kind before beyond text with
  | case1 before => trivial
  | case2 before c rest literal after htake hlt ih =>
      refine ⟨?_, ih⟩
      rw [flatMap_chars_cut]
      exact LiteralKind.isBoundary_behind_of_takeBounded? htake
  | case3 before c rest htake ih => exact closed_prepend ih

/-- Without empty pieces, the text behind a piece begins with the next piece. -/
theorem head?_bind_eq_head?_flatMap (h : ∀ p ∈ ps, p.chars ≠ []) :
    ps.head?.bind (·.chars.head?) = (ps.flatMap Piece.chars).head? := by
  cases ps with
  | nil => rfl
  | cons p ps =>
      obtain ⟨c, chars, hchars⟩ := List.exists_cons_of_ne_nil (h p List.mem_cons_self)
      simp [hchars]

theorem Closed.refine (kind : LiteralKind) (h : Closed none ps) (hne : ∀ p ∈ ps, p.chars ≠ []) :
    Closed none (refine kind before ps) := by
  fun_induction Step.refine kind before ps with
  | case1 => trivial
  | case2 before other chars rest ih =>
      obtain ⟨hbehind, hrest⟩ := h
      refine ⟨?_, ih hrest fun p hp => hne p (List.mem_cons_of_mem _ hp)⟩
      rwa [flatMap_chars_refine]
  | case3 before chars rest ih =>
      have hrest : ∀ p ∈ rest, p.chars ≠ [] := fun p hp => hne p (List.mem_cons_of_mem _ hp)
      rw [closed_append, flatMap_chars_refine, Option.or_none, head?_bind_eq_head?_flatMap hrest]
      exact ⟨closed_cut kind before _ chars, ih h hrest⟩

/-! No piece is empty. -/

theorem ne_nil_of_mem_prepend {c : Char} (h : ∀ p ∈ ps, p.chars ≠ []) :
    ∀ p ∈ Piece.prepend c ps, p.chars ≠ [] := by
  have htext (chars : List Char) : (Piece.text (c :: chars)).chars ≠ [] := List.cons_ne_nil c chars
  cases ps with
  | nil => exact List.forall_mem_singleton.mpr (htext [])
  | cons p ps =>
      cases p with
      | text chars =>
          rw [Piece.prepend, List.forall_mem_cons]
          exact ⟨htext chars, (List.forall_mem_cons.mp h).2⟩
      | literal kind chars =>
          have hprepend : Piece.prepend c (.literal kind chars :: ps) =
              .text [c] :: .literal kind chars :: ps :=
            rfl
          rw [hprepend, List.forall_mem_cons]
          exact ⟨htext [], h⟩

theorem ne_nil_of_mem_cut (kind : LiteralKind) (before beyond : Option Char) (text : List Char) :
    ∀ p ∈ cut kind before beyond text, p.chars ≠ [] := by
  fun_induction cut kind before beyond text with
  | case1 before => simp
  | case2 before c rest literal after htake hlt ih =>
      rw [List.forall_mem_cons]
      exact ⟨(LiteralKind.take?_append (LiteralKind.take?_of_takeBounded? htake)).2, ih⟩
  | case3 before c rest htake ih => exact ne_nil_of_mem_prepend ih

theorem ne_nil_of_mem_refine (kind : LiteralKind) (h : Bounded before ps) :
    ∀ p ∈ refine kind before ps, p.chars ≠ [] := by
  fun_induction refine kind before ps with
  | case1 => simp
  | case2 before other chars rest ih =>
      obtain ⟨-, hwrites, hrest⟩ := h
      rw [getLast?_or_of_ne_nil hwrites.ne_nil] at hrest
      rw [List.forall_mem_cons]
      exact ⟨hwrites.ne_nil, ih hrest⟩
  | case3 before chars rest ih =>
      rw [List.forall_mem_append]
      exact ⟨ne_nil_of_mem_cut kind before _ chars, ih h⟩

theorem ne_nil_of_mem_pieces (text : List Char) : ∀ p ∈ pieces text, p.chars ≠ [] := by
  have htext : Bounded none [.text text] := trivial
  exact ne_nil_of_mem_refine .integer ((htext.refine .doubleQuoted).refine .singleQuoted)

/-- The quoted literals of a text stand at its end or before white space. -/
theorem closed_pieces (text : List Char) : Closed none (pieces text) := by
  have htext : Bounded none [.text text] := trivial
  have hdouble : Closed none (refine .doubleQuoted none [.text text]) := by
    rw [refine, refine, List.append_nil]
    exact closed_cut .doubleQuoted none none text
  have hsingle : Closed none
      (refine .singleQuoted none (refine .doubleQuoted none [.text text])) :=
    hdouble.refine .singleQuoted (ne_nil_of_mem_refine .doubleQuoted htext)
  exact hsingle.refine .integer
    (ne_nil_of_mem_refine .singleQuoted (htext.refine .doubleQuoted))

/-- No literal of a kind stands directly before a part of a word. -/
def Apart (kind : LiteralKind) : List Token → Prop
  | [] => True
  | .text _ :: rest => Apart kind rest
  | .literal other _ _ :: rest =>
      (other = kind → (rest.flatMap Token.chars).head?.any Unicode.isWord = false) ∧
        Apart kind rest

theorem flatMap_chars_number (next : LiteralKind → Nat) (ps : List Piece) :
    (number next ps).flatMap Token.chars = ps.flatMap Piece.chars := by
  induction ps generalizing next with
  | nil => rfl
  | cons p ps ih =>
      cases p with
      | text chars => rw [number, List.flatMap_cons, ih, List.flatMap_cons]; rfl
      | literal kind chars => rw [number, List.flatMap_cons, ih, List.flatMap_cons]; rfl

/-- The tokens of a text make it up. -/
theorem flatMap_chars_tokenize (text : List Char) :
    (tokenize text).flatMap Token.chars = text :=
  (flatMap_chars_number _ _).trans (flatMap_chars_pieces text)

/-- A boundary is no part of a word. -/
theorem any_isWord_of_isBoundary {neighbour : Option Char} (h : isBoundary neighbour = true) :
    neighbour.any Unicode.isWord = false := by
  cases neighbour with
  | none => rfl
  | some c => exact Unicode.isWord_of_isSpace h

theorem Closed.apart (h : Closed none ps) (hkind : kind ≠ .integer) (next : LiteralKind → Nat) :
    Apart kind (number next ps) := by
  induction ps generalizing next with
  | nil => trivial
  | cons p ps ih =>
      cases p with
      | text chars => exact ih h next
      | literal other chars =>
          obtain ⟨hbehind, hrest⟩ := h
          refine ⟨fun heq => ?_, ih hrest _⟩
          rw [Option.or_none] at hbehind
          rw [flatMap_chars_number]
          exact any_isWord_of_isBoundary (hbehind.resolve_left fun hinteger => hkind (heq ▸ hinteger))

/-- Only numbers may stand directly before a part of a word. -/
theorem apart_tokenize (text : List Char) (hkind : kind ≠ .integer) : Apart kind (tokenize text) :=
  (closed_pieces text).apart hkind _

/-! The numbers of the literals. -/

def Token.index? : Token → Option Nat
  | .text _ => none
  | .literal _ _ index => some index

def Token.indexOf? (kind : LiteralKind) : Token → Option Nat
  | .text _ => none
  | .literal other _ index => if other = kind then some index else none

/-- The literals of a kind are numbered one after another. -/
theorem filterMap_indexOf?_number (kind : LiteralKind) (next : LiteralKind → Nat)
    (ps : List Piece) :
    (number next ps).filterMap (Token.indexOf? kind) =
      List.range' (next kind) (countKind kind ps) := by
  induction ps generalizing next with
  | nil => rfl
  | cons p ps ih =>
      cases p with
      | text chars => exact ih next
      | literal other chars =>
          by_cases hkind : other = kind
          · subst hkind
            have hcount : countKind other (.literal other chars :: ps) =
                countKind other ps + 1 :=
              List.countP_cons_of_pos (by simp)
            have hindex : Token.indexOf? other (.literal other chars (next other)) =
                some (next other) :=
              if_pos rfl
            rw [number, List.filterMap_cons_some hindex, ih, hcount, List.range'_succ, if_pos rfl]
          · have hcount : countKind kind (.literal other chars :: ps) = countKind kind ps :=
              List.countP_cons_of_neg (by simp [hkind])
            rw [number, List.filterMap_cons_none (by simp [Token.indexOf?, hkind]), ih, hcount,
              if_neg (Ne.symm hkind)]

/-- Each number belongs to a literal of one kind. -/
theorem perm_index? (ts : List Token) :
    (ts.filterMap Token.index?).Perm
      (ts.filterMap (Token.indexOf? .doubleQuoted) ++
        (ts.filterMap (Token.indexOf? .singleQuoted) ++
          ts.filterMap (Token.indexOf? .integer))) := by
  induction ts with
  | nil => exact List.Perm.refl []
  | cons t ts ih =>
      cases t with
      | text chars => exact ih
      | literal kind chars index =>
          cases kind with
          | doubleQuoted => exact ih.cons index
          | singleQuoted => exact (ih.cons index).trans List.perm_middle.symm
          | integer =>
              refine (ih.cons index).trans ?_
              rw [← List.append_assoc]
              exact List.perm_middle.symm.trans (by rw [List.append_assoc]; rfl)

theorem length_filterMap_index? (text : List Char) :
    ((tokenize text).filterMap Token.index?).length = literalCount text := by
  rw [List.length_filterMap_eq_countP, literalCount]
  congr
  funext t
  cases t with
  | text chars => rfl
  | literal kind chars index => rfl

/-- The literals of a text are numbered from one on: first the double-quoted ones in their order,
then the single-quoted ones, then the integers. -/
theorem append_indexOf?_tokenize (text : List Char) :
    (tokenize text).filterMap (Token.indexOf? .doubleQuoted) ++
        ((tokenize text).filterMap (Token.indexOf? .singleQuoted) ++
          (tokenize text).filterMap (Token.indexOf? .integer)) =
      List.range' 1 (literalCount text) := by
  have hdouble : (tokenize text).filterMap (Token.indexOf? .doubleQuoted) =
      List.range' 1 (countKind .doubleQuoted (pieces text)) :=
    filterMap_indexOf?_number _ _ _
  have hsingle : (tokenize text).filterMap (Token.indexOf? .singleQuoted) =
      List.range' (countKind .doubleQuoted (pieces text) + 1)
        (countKind .singleQuoted (pieces text)) :=
    filterMap_indexOf?_number _ _ _
  have hinteger : (tokenize text).filterMap (Token.indexOf? .integer) =
      List.range' (countKind .doubleQuoted (pieces text) +
          countKind .singleQuoted (pieces text) + 1) (countKind .integer (pieces text)) :=
    filterMap_indexOf?_number _ _ _
  have hlength := (perm_index? (tokenize text)).length_eq
  rw [length_filterMap_index?] at hlength
  rw [hdouble, hsingle, hinteger, Nat.add_right_comm, Nat.add_comm _ 1, List.range'_append_1,
    List.range'_append_1] at hlength ⊢
  rw [hlength, List.length_range']

/-- The literals of a text have the numbers from one on, each of them once. -/
theorem perm_range'_index? (text : List Char) :
    ((tokenize text).filterMap Token.index?).Perm (List.range' 1 (literalCount text)) := by
  rw [← append_indexOf?_tokenize]
  exact perm_index? (tokenize text)

theorem nodup_index? (text : List Char) : ((tokenize text).filterMap Token.index?).Nodup :=
  (perm_range'_index? text).nodup_iff.mpr List.nodup_range'

end Stepwise.Step
