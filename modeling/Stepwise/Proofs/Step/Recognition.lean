import Mathlib.Data.List.Chain
import Stepwise.Proofs.Step.Tokens

/-!
# Which literals of a step text are found

Where the literals of a text are, and which parts of a text may be one. Main statements: every
literal that is found is such a part, and such a part is only left out for an overlapping
literal that is looked for earlier, or that is of the same kind and starts further left.
-/

namespace Stepwise.Step

/-! Literals and their places. -/

/-- A part of a text as a literal of a kind, with the number of characters before it. -/
structure Span where
  kind : LiteralKind
  start : Nat
  chars : List Char
deriving DecidableEq, Repr

/-- The number of characters up to the end of a span. -/
def Span.stop (s : Span) : Nat :=
  s.start + s.chars.length

/-- Whether two spans share a place in the text. -/
def Span.Overlaps (s t : Span) : Prop :=
  s.start < t.stop ∧ t.start < s.stop

/-- The turn in which the literals of a kind are looked for. -/
def LiteralKind.turn : LiteralKind → Nat
  | .doubleQuoted => 0
  | .singleQuoted => 1
  | .integer => 2

theorem LiteralKind.turn_lt (kind : LiteralKind) : kind.turn < 3 := by
  cases kind with
  | doubleQuoted => decide
  | singleQuoted => decide
  | integer => decide

theorem turn_injective : Function.Injective LiteralKind.turn := by
  intro kind other h
  cases kind with
  | doubleQuoted => cases other <;> trivial
  | singleQuoted => cases other <;> trivial
  | integer => cases other <;> trivial

/-- Whether a span is looked for before another one: in an earlier turn, or further left. -/
def Span.Precedes (s t : Span) : Prop :=
  s.kind.turn < t.kind.turn ∨ s.kind = t.kind ∧ s.start < t.start

/-- Whether some characters stand between quotes and, with them, between white space or the ends
of the text. There is at least one character, and none of them is a quote. -/
def IsQuotedSpan (quote : Char) (front chars back : List Char) : Prop :=
  (∃ value, value ≠ [] ∧ quote ∉ value ∧ chars = quote :: (value ++ [quote])) ∧
    isBoundary front.getLast? = true ∧ isBoundary back.head? = true

/-- Whether some characters are a run of digits that does not go on at either end, behind white
space or at the start of the text. -/
def IsDigitSpan (front chars back : List Char) : Prop :=
  chars ≠ [] ∧ (∀ c ∈ chars, c.isDigit = true) ∧ front.getLast?.any Char.isDigit = false ∧
    back.head?.any Char.isDigit = false ∧ isBoundary front.getLast? = true

/-- Whether some characters may be a literal of a kind in the text that they make up with the
characters in front of them and those behind. -/
def LiteralKind.Fits : LiteralKind → List Char → List Char → List Char → Prop
  | .doubleQuoted => IsQuotedSpan '"'
  | .singleQuoted => IsQuotedSpan '\''
  | .integer => IsDigitSpan

/-- Whether a span may be a literal of a text. -/
def Span.IsIn (text : List Char) (s : Span) : Prop :=
  ∃ front back, text = front ++ (s.chars ++ back) ∧ front.length = s.start ∧
    s.kind.Fits front s.chars back

/-- A token without its number. -/
def Token.piece : Token → Piece
  | .text chars => .text chars
  | .literal kind chars _ => .literal kind chars

/-- The literals among some pieces. `start` is the number of characters before the pieces. -/
def spansFrom (start : Nat) : List Piece → List Span
  | [] => []
  | .text chars :: rest => spansFrom (start + chars.length) rest
  | .literal kind chars :: rest =>
      ⟨kind, start, chars⟩ :: spansFrom (start + chars.length) rest

def literals (text : List Char) : List Span :=
  spansFrom 0 ((tokenize text).map Token.piece)

theorem map_piece_number (next : LiteralKind → Nat) (ps : List Piece) :
    (number next ps).map Token.piece = ps := by
  induction ps generalizing next with
  | nil => rfl
  | cons p ps ih =>
      cases p with
      | text chars => rw [number, List.map_cons, ih, Token.piece]
      | literal kind chars => rw [number, List.map_cons, ih, Token.piece]

theorem literals_eq_spansFrom_pieces (text : List Char) :
    literals text = spansFrom 0 (pieces text) := by
  rw [literals, tokenize, map_piece_number]

theorem spansFrom_append (start : Nat) (ps qs : List Piece) :
    spansFrom start (ps ++ qs) =
      spansFrom start ps ++ spansFrom (start + (ps.flatMap Piece.chars).length) qs := by
  induction ps generalizing start with
  | nil => rfl
  | cons p ps ih =>
      cases p with
      | text chars =>
          rw [List.cons_append, spansFrom, ih, spansFrom, List.flatMap_cons, Piece.chars,
            List.length_append, Nat.add_assoc]
      | literal kind chars =>
          rw [List.cons_append, spansFrom, ih, spansFrom, List.flatMap_cons, Piece.chars,
            List.length_append, Nat.add_assoc, List.cons_append]

theorem spansFrom_prepend (start : Nat) (c : Char) (ps : List Piece) :
    spansFrom start (Piece.prepend c ps) = spansFrom (start + 1) ps := by
  cases ps with
  | nil => rfl
  | cons p ps =>
      cases p with
      | text chars =>
          rw [Piece.prepend, spansFrom, spansFrom, List.length_cons, Nat.add_assoc,
            Nat.add_comm chars.length]
      | literal kind chars => rfl

/-! One place of a text. -/

variable {kind : LiteralKind} {front back text chars after : List Char} {s : Span}

theorem IsQuotedSpan.takeQuoted?_append_eq {quote : Char}
    (h : IsQuotedSpan quote front chars back) (after : List Char) :
    takeQuoted? quote (chars ++ after) = some (chars, after) := by
  obtain ⟨⟨value, hne, hvalue, rfl⟩, -⟩ := h
  have hinner : ∀ c ∈ value, decide (c ≠ quote) = true := by
    intro c hc
    exact decide_eq_true fun heq => hvalue (heq ▸ hc)
  have htake : (value ++ quote :: after).takeWhile (· ≠ quote) = value := by
    rw [List.takeWhile_append_of_pos hinner]
    simp
  have hdrop : (value ++ quote :: after).dropWhile (· ≠ quote) = quote :: after := by
    rw [List.dropWhile_append_of_pos hinner]
    simp
  obtain ⟨first, inner, rfl⟩ := List.exists_cons_of_ne_nil hne
  have hchars : quote :: (first :: inner ++ [quote]) ++ after =
      quote :: (first :: inner ++ quote :: after) := by
    simp
  rw [hchars, takeQuoted?, if_pos rfl, htake, hdrop]
  rfl

theorem takeDigits?_append_eq (hne : chars ≠ []) (hdigits : ∀ c ∈ chars, c.isDigit = true)
    (hafter : after.head?.any Char.isDigit = false) :
    takeDigits? (chars ++ after) = some (chars, after) := by
  have hwhile : after.takeWhile Char.isDigit = [] ∧ after.dropWhile Char.isDigit = after := by
    cases after with
    | nil => exact ⟨rfl, rfl⟩
    | cons c after =>
        have hc : ¬c.isDigit = true := by simpa using hafter
        exact ⟨List.takeWhile_cons_of_neg hc, List.dropWhile_cons_of_neg hc⟩
  rw [takeDigits?, List.takeWhile_append_of_pos hdigits, List.dropWhile_append_of_pos hdigits,
    hwhile.1, hwhile.2, List.append_nil, if_neg (by simpa using hne)]

theorem isDigit_head?_of_takeDigits? (h : takeDigits? text = some (chars, after)) :
    (∀ c ∈ chars, c.isDigit = true) ∧ after.head?.any Char.isDigit = false := by
  simp only [takeDigits?] at h
  split at h
  · exact absurd h (by simp)
  · obtain ⟨rfl, rfl⟩ := Prod.mk.inj (Option.some.inj h)
    refine ⟨fun c hc => List.mem_takeWhile_imp hc, ?_⟩
    have hhead := List.head?_dropWhile_not Char.isDigit text
    cases hdrop : (text.dropWhile Char.isDigit).head? with
    | none => rfl
    | some c =>
        rw [hdrop] at hhead
        simpa using hhead

/-- No digit is a boundary. -/
theorem any_isDigit_of_isBoundary {neighbour : Option Char} (h : isBoundary neighbour = true) :
    neighbour.any Char.isDigit = false := by
  cases neighbour with
  | none => rfl
  | some c =>
      by_contra hdigit
      have hspace := Unicode.isSpace_of_has_decimalNumber
        (Unicode.has_decimalNumber_of_isDigit (by simpa using hdigit))
      simp [isBoundary, hspace] at h

theorem LiteralKind.Fits.ne_nil (h : kind.Fits front chars back) : chars ≠ [] := by
  cases kind with
  | doubleQuoted =>
      obtain ⟨⟨value, -, -, rfl⟩, -⟩ := h
      exact List.cons_ne_nil _ _
  | singleQuoted =>
      obtain ⟨⟨value, -, -, rfl⟩, -⟩ := h
      exact List.cons_ne_nil _ _
  | integer => exact h.1

/-- A quoted literal begins with its quote, and so with no digit. -/
theorem LiteralKind.Fits.head?_any_isDigit (h : kind.Fits front chars back)
    (hkind : kind ≠ .integer) : chars.head?.any Char.isDigit = false := by
  cases kind with
  | doubleQuoted =>
      obtain ⟨⟨value, -, -, rfl⟩, -⟩ := h
      rfl
  | singleQuoted =>
      obtain ⟨⟨value, -, -, rfl⟩, -⟩ := h
      rfl
  | integer => exact absurd rfl hkind

/-- What is taken may be a literal. A run of digits must not go on behind the part of the text
that it is looked for in. -/
theorem LiteralKind.fits_of_takeBounded?
    (h : kind.takeBounded? front.getLast? back.head? text = some (chars, after))
    (hback : kind = .integer → back.head?.any Char.isDigit = false) :
    kind.Fits front chars (after ++ back) := by
  have hbefore := isBoundary_of_takeBounded? h
  have hbehind := isBoundary_behind_of_takeBounded? h
  rw [← List.head?_append] at hbehind
  have htake := take?_of_takeBounded? h
  cases kind with
  | doubleQuoted =>
      exact ⟨takeQuoted?_written htake, hbefore, hbehind.resolve_left nofun⟩
  | singleQuoted =>
      exact ⟨takeQuoted?_written htake, hbefore, hbehind.resolve_left nofun⟩
  | integer =>
      obtain ⟨hdigits, hafter⟩ := isDigit_head?_of_takeDigits? htake
      refine ⟨(takeDigits?_append htake).2, hdigits, any_isDigit_of_isBoundary hbefore, ?_,
        hbefore⟩
      cases after with
      | nil => exact hback rfl
      | cons c after => exact hafter

theorem LiteralKind.Fits.isBoundary_ends (h : kind.Fits front chars back) :
    isBoundary front.getLast? = true ∧ (kind = .integer ∨ isBoundary back.head? = true) := by
  cases kind with
  | doubleQuoted => exact ⟨h.2.1, .inr h.2.2⟩
  | singleQuoted => exact ⟨h.2.1, .inr h.2.2⟩
  | integer => exact ⟨h.2.2.2.2, .inl rfl⟩

theorem LiteralKind.Fits.take?_eq (h : kind.Fits front chars (after ++ back)) :
    kind.take? (chars ++ after) = some (chars, after) := by
  cases kind with
  | doubleQuoted => exact h.takeQuoted?_append_eq after
  | singleQuoted => exact h.takeQuoted?_append_eq after
  | integer =>
      obtain ⟨hne, hdigits, -, hbehind, -⟩ := h
      refine takeDigits?_append_eq hne hdigits ?_
      cases after with
      | nil => rfl
      | cons c after => exact hbehind

/-- What may be a literal at the front of a text is taken. -/
theorem LiteralKind.Fits.takeBounded?_eq (h : kind.Fits front chars (after ++ back)) :
    kind.takeBounded? front.getLast? back.head? (chars ++ after) = some (chars, after) := by
  have htake := h.take?_eq
  obtain ⟨hbefore, hbehind⟩ := h.isBoundary_ends
  rw [List.head?_append] at hbehind
  simp [takeBounded?, htake, hbefore, hbehind]

theorem Span.IsIn.start_lt_stop (h : s.IsIn text) : s.start < s.stop := by
  obtain ⟨front, back, -, -, hfits⟩ := h
  exact Nat.lt_add_of_pos_right (List.length_pos_iff.mpr hfits.ne_nil)

theorem Span.IsIn.stop_le (h : s.IsIn text) : s.stop ≤ text.length := by
  obtain ⟨front, back, rfl, hlength, -⟩ := h
  simp only [Span.stop, List.length_append]
  omega

/-- A span that starts where a part of the text starts, and ends in it, is taken there. -/
theorem Span.IsIn.takeBounded?_eq {segment : List Char} (h : s.IsIn (front ++ (segment ++ back)))
    (hstart : s.start = front.length) (hstop : s.stop ≤ front.length + segment.length) :
    ∃ after, s.kind.takeBounded? front.getLast? back.head? segment = some (s.chars, after) := by
  obtain ⟨front', back', htext, hlength, hfits⟩ := h
  obtain ⟨rfl, hrest⟩ := List.append_inj htext (by rw [hlength, hstart])
  rw [Span.stop, hstart] at hstop
  obtain ⟨after, rfl⟩ := List.prefix_of_prefix_length_le (List.prefix_append s.chars back')
    (hrest ▸ List.prefix_append segment back) (by omega)
  rw [List.append_assoc] at hrest
  rw [← List.append_cancel_left hrest] at hfits
  exact ⟨after, hfits.takeBounded?_eq⟩

/-! The literals of one kind in a part of a text. -/

theorem isIn_of_mem_cut (kind : LiteralKind) (front segment back : List Char)
    (hback : kind = .integer → back.head?.any Char.isDigit = false) :
    ∀ s ∈ spansFrom front.length (cut kind front.getLast? back.head? segment),
      s.IsIn (front ++ (segment ++ back)) ∧ s.kind = kind := by
  generalize hbefore : front.getLast? = before
  generalize hbeyond : back.head? = beyond
  fun_induction cut kind before beyond segment generalizing front with
  | case1 before => simp [spansFrom]
  | case2 before c rest literal after htake hlt ih =>
      subst hbefore hbeyond
      obtain ⟨htext, hne⟩ := LiteralKind.take?_append (LiteralKind.take?_of_takeBounded? htake)
      rw [spansFrom, List.forall_mem_cons]
      constructor
      · refine ⟨⟨front, after ++ back, ?_, rfl, ?_⟩, rfl⟩
        · rw [← htext, List.append_assoc]
        · exact LiteralKind.fits_of_takeBounded? htake hback
      · have hlast : (front ++ literal).getLast? = literal.getLast? := by
          rw [List.getLast?_append_of_ne_nil _ hne]
        have hafter := ih (front ++ literal) hlast
        rwa [List.length_append, List.append_assoc, ← List.append_assoc literal, htext] at hafter
  | case3 before c rest htake ih =>
      rw [spansFrom_prepend]
      have hrest := ih (front ++ [c]) (by simp)
      rwa [List.length_append, List.append_assoc] at hrest

/-- Going through a part of a text from left to right finds whatever may be a literal there,
unless a literal further left goes into it. -/
theorem mem_or_overlaps_cut (front segment back : List Char)
    (h : s.IsIn (front ++ (segment ++ back))) (hstart : front.length ≤ s.start)
    (hstop : s.stop ≤ front.length + segment.length) :
    s ∈ spansFrom front.length (cut s.kind front.getLast? back.head? segment) ∨
      ∃ t ∈ spansFrom front.length (cut s.kind front.getLast? back.head? segment),
        t.Overlaps s ∧ t.start < s.start := by
  have hlength : s.start < s.stop := h.start_lt_stop
  generalize hbefore : front.getLast? = before
  generalize hbeyond : back.head? = beyond
  generalize hkind : s.kind = kind
  fun_induction cut kind before beyond segment generalizing front with
  | case1 before =>
      rw [List.length_nil] at hstop
      omega
  | case2 before c rest literal after htake hlt ih =>
      subst hbefore hbeyond hkind
      obtain ⟨htext, hne⟩ := LiteralKind.take?_append (LiteralKind.take?_of_takeBounded? htake)
      rw [spansFrom]
      by_cases heq : s.start = front.length
      · obtain ⟨behind, hliteral⟩ := h.takeBounded?_eq heq hstop
        rw [htake] at hliteral
        left
        rw [(Prod.mk.inj (Option.some.inj hliteral)).1, ← heq]
        exact List.mem_cons_self
      · by_cases hover : s.start < front.length + literal.length
        · right
          refine ⟨⟨s.kind, front.length, literal⟩, List.mem_cons_self, ⟨?_, hover⟩, ?_⟩
          · show front.length < s.stop
            omega
          · show front.length < s.start
            omega
        · have hlast : (front ++ literal).getLast? = literal.getLast? := by
            rw [List.getLast?_append_of_ne_nil _ hne]
          have hrest := ih (front ++ literal)
          rw [List.append_assoc, ← List.append_assoc literal, htext, List.length_append] at hrest
          have hsplit := congrArg List.length htext
          rw [List.length_append] at hsplit
          obtain hmem | ⟨t, ht, hearlier⟩ := hrest h (by omega) (by omega) hlast
          · exact .inl (List.mem_cons_of_mem _ hmem)
          · exact .inr ⟨t, List.mem_cons_of_mem _ ht, hearlier⟩
  | case3 before c rest htake ih =>
      subst hbefore hbeyond hkind
      rw [spansFrom_prepend]
      have hne : s.start ≠ front.length := by
        intro heq
        obtain ⟨behind, hliteral⟩ := h.takeBounded?_eq heq hstop
        rw [htake] at hliteral
        exact absurd hliteral (by simp)
      have hrest := ih (front ++ [c])
      rw [List.append_assoc, List.length_append] at hrest
      rw [List.length_cons] at hstop
      exact hrest h (by simp; omega) (by simp; omega) (by simp)

/-! The pieces of a text. -/

variable {ps qs rs : List Piece} {start : Nat}

def Piece.isLiteral : Piece → Bool
  | .text _ => false
  | .literal .. => true

/-- Of two pieces next to each other, one is a literal. -/
def Parted (ps : List Piece) : Prop :=
  ps.IsChain fun p q => p.isLiteral = true ∨ q.isLiteral = true

theorem parted_text_cons :
    Parted (.text chars :: ps) ↔ (∀ p ∈ ps.head?, p.isLiteral = true) ∧ Parted ps := by
  simp [Parted, List.isChain_cons, Piece.isLiteral]

theorem parted_literal_cons : Parted (.literal kind chars :: ps) ↔ Parted ps := by
  simp [Parted, List.isChain_cons, Piece.isLiteral]

theorem parted_prepend {c : Char} (h : Parted ps) : Parted (Piece.prepend c ps) := by
  cases ps with
  | nil => exact List.isChain_singleton _
  | cons p ps =>
      cases p with
      | text chars =>
          rw [Piece.prepend, parted_text_cons]
          exact parted_text_cons.mp h
      | literal kind chars =>
          refine parted_text_cons.mpr ⟨?_, h⟩
          intro p hp
          rw [← Option.mem_some_iff.mp hp]
          rfl

theorem parted_cut (kind : LiteralKind) (before beyond : Option Char) (text : List Char) :
    Parted (cut kind before beyond text) := by
  fun_induction cut kind before beyond text with
  | case1 before => exact List.isChain_nil
  | case2 before c rest literal after htake hlt ih => exact parted_literal_cons.mpr ih
  | case3 before c rest htake ih => exact parted_prepend ih

theorem Parted.refine (kind : LiteralKind) (before : Option Char) (h : Parted ps) :
    Parted (refine kind before ps) := by
  fun_induction Step.refine kind before ps with
  | case1 => exact h
  | case2 before other chars rest ih =>
      exact parted_literal_cons.mpr (ih (parted_literal_cons.mp h))
  | case3 before chars rest ih =>
      obtain ⟨hhead, hrest⟩ := parted_text_cons.mp h
      refine List.isChain_append.mpr ⟨parted_cut kind before _ chars, ih hrest, ?_⟩
      intro p hp q hq
      right
      cases rest with
      | nil => exact absurd hq (by simp [Step.refine])
      | cons r rest =>
          cases r with
          | text chars => exact absurd (hhead _ rfl) (by simp [Piece.isLiteral])
          | literal other chars =>
              rw [Step.refine, List.head?_cons, Option.mem_some_iff] at hq
              rw [← hq, Piece.isLiteral]

/-- A span lies in the text between two literals, or goes into one. -/
theorem in_text_or_overlaps (hparted : Parted ps) (hlength : s.start < s.stop)
    (hstart : start ≤ s.start) (hstop : s.stop ≤ start + (ps.flatMap Piece.chars).length) :
    (∃ qs chars rs, ps = qs ++ .text chars :: rs ∧
        start + (qs.flatMap Piece.chars).length ≤ s.start ∧
        s.stop ≤ start + (qs.flatMap Piece.chars).length + chars.length) ∨
      ∃ t ∈ spansFrom start ps, t.Overlaps s := by
  induction ps generalizing start with
  | nil =>
      rw [List.flatMap_nil, List.length_nil] at hstop
      omega
  | cons p ps ih =>
      rw [List.flatMap_cons, List.length_append, ← Nat.add_assoc] at hstop
      by_cases hbehind : start + p.chars.length ≤ s.start
      · have hrest : Parted ps := hparted.tail
        obtain ⟨qs, chars, rs, rfl, hfrom, hto⟩ | ⟨t, ht, hover⟩ := ih hrest hbehind hstop
        · left
          refine ⟨p :: qs, chars, rs, rfl, ?_⟩
          rw [List.flatMap_cons, List.length_append, ← Nat.add_assoc]
          exact ⟨hfrom, hto⟩
        · right
          refine ⟨t, ?_, hover⟩
          cases p with
          | text chars => exact ht
          | literal kind chars => exact List.mem_cons_of_mem _ ht
      · cases p with
        | literal kind chars =>
            right
            refine ⟨⟨kind, start, chars⟩, List.mem_cons_self, ?_, Nat.lt_of_not_le hbehind⟩
            exact Nat.lt_of_le_of_lt hstart hlength
        | text chars =>
            by_cases hinside : s.stop ≤ start + chars.length
            · exact .inl ⟨[], chars, ps, rfl, hstart, hinside⟩
            · -- The span goes on behind this text, and so into the literal that follows.
              right
              cases ps with
              | nil => exact absurd hstop hinside
              | cons q ps =>
                  have hq := (parted_text_cons.mp hparted).1 q rfl
                  cases q with
                  | text chars => exact absurd hq Bool.false_ne_true
                  | literal kind following =>
                      refine ⟨⟨kind, start + chars.length, following⟩, List.mem_cons_self, ?_, ?_⟩
                      · exact Nat.lt_of_not_le hinside
                      · exact Nat.lt_of_lt_of_le (Nat.lt_of_not_le hbehind) (Nat.le_add_right _ _)

/-- The plain text among some pieces is the first one, or among the others. -/
theorem exists_text_cons {p : Piece} {P : List Piece → List Char → List Piece → Prop} :
    (∃ qs chars rs, p :: ps = qs ++ .text chars :: rs ∧ P qs chars rs) ↔
      (∃ chars, p = .text chars ∧ P [] chars ps) ∨
        ∃ qs chars rs, ps = qs ++ .text chars :: rs ∧ P (p :: qs) chars rs := by
  constructor
  · rintro ⟨qs, chars, rs, heq, h⟩
    obtain ⟨rfl, hcons⟩ | ⟨qs, rfl, rfl⟩ := List.cons_eq_append_iff.mp heq
    · obtain ⟨rfl, rfl⟩ := List.cons.inj hcons
      exact .inl ⟨chars, rfl, h⟩
    · exact .inr ⟨qs, chars, rs, rfl, h⟩
  · rintro (⟨chars, rfl, h⟩ | ⟨qs, chars, rs, rfl, h⟩)
    · exact ⟨[], chars, ps, rfl, h⟩
    · exact ⟨p :: qs, chars, rs, rfl, h⟩

/-- Cutting pieces further keeps their literals, and adds those of the text between them. -/
theorem mem_spansFrom_refine (kind : LiteralKind) (front : List Char)
    (hne : ∀ t ∈ spansFrom front.length ps, t.chars ≠ []) :
    s ∈ spansFrom front.length (refine kind front.getLast? ps) ↔
      s ∈ spansFrom front.length ps ∨
        ∃ qs chars rs, ps = qs ++ .text chars :: rs ∧
          s ∈ spansFrom (front ++ qs.flatMap Piece.chars).length
            (cut kind (front ++ qs.flatMap Piece.chars).getLast?
              (rs.head?.bind (·.chars.head?)) chars) := by
  induction ps generalizing front with
  | nil => simp [refine]
  | cons p ps ih =>
      have hfront (qs : List Piece) : front ++ (p :: qs).flatMap Piece.chars =
          front ++ p.chars ++ qs.flatMap Piece.chars := by
        rw [List.flatMap_cons, List.append_assoc]
      simp only [exists_text_cons, hfront]
      cases p with
      | literal other chars =>
          rw [spansFrom, List.forall_mem_cons, ← List.length_append] at hne
          have hlast : chars.getLast? = (front ++ chars).getLast? := by
            rw [List.getLast?_append_of_ne_nil _ hne.1]
          rw [refine, hlast, spansFrom, spansFrom, ← List.length_append, List.mem_cons,
            List.mem_cons, ih (front ++ chars) hne.2, or_assoc]
          simp [Piece.chars]
      | text chars =>
          rw [spansFrom, ← List.length_append] at hne
          have hlast : chars.getLast?.or front.getLast? = (front ++ chars).getLast? :=
            List.getLast?_append.symm
          rw [refine, spansFrom_append, List.mem_append, flatMap_chars_cut, hlast, spansFrom,
            ← List.length_append, ih (front ++ chars) hne]
          simp only [Piece.text.injEq, Piece.chars, List.flatMap_nil, List.append_nil,
            exists_eq_left']
          exact or_left_comm

/-! What is found in the end. -/

/-- The literals that some pieces of a text have after the first few turns: nothing but what may
be a literal, and all of it that no literal looked for before goes into. -/
structure Recognized (turns : Nat) (text : List Char) (ps : List Piece) : Prop where
  chars : ps.flatMap Piece.chars = text
  parted : Parted ps
  sound : ∀ s ∈ spansFrom 0 ps, s.IsIn text ∧ s.kind.turn < turns
  complete : ∀ s : Span, s.IsIn text → s.kind.turn < turns →
    s ∈ spansFrom 0 ps ∨ ∃ t ∈ spansFrom 0 ps, t.Overlaps s ∧ t.Precedes s

theorem recognized_text (text : List Char) : Recognized 0 text [.text text] where
  chars := List.append_nil text
  parted := List.isChain_singleton _
  sound := by simp [spansFrom]
  complete := fun s _ hturn => absurd hturn (Nat.not_lt_zero _)

/-- What is behind the text between two literals begins with the second one, which is no run of
digits before the last turn. -/
theorem Recognized.head?_behind (h : Recognized kind.turn text (qs ++ .text chars :: rs)) :
    rs.head?.bind (·.chars.head?) = (rs.flatMap Piece.chars).head? ∧
      (kind = .integer → (rs.flatMap Piece.chars).head?.any Char.isDigit = false) := by
  have hhead := (parted_text_cons.mp h.parted.right_of_append).1
  cases rs with
  | nil => exact ⟨rfl, fun _ => rfl⟩
  | cons p rs =>
      cases p with
      | text following => exact absurd (hhead _ rfl) Bool.false_ne_true
      | literal other following =>
          obtain ⟨⟨front, back, -, -, hfits⟩, hturn⟩ := h.sound
            ⟨other, 0 + (qs.flatMap Piece.chars).length + chars.length, following⟩
            (by simp [spansFrom_append, spansFrom])
          have hbehind : ((Piece.literal other following :: rs).flatMap Piece.chars).head? =
              following.head? := by
            rw [List.flatMap_cons, Piece.chars, List.head?_append,
              List.head?_eq_some_head hfits.ne_nil, Option.some_or]
          rw [hbehind]
          refine ⟨rfl, fun hkind => hfits.head?_any_isDigit ?_⟩
          rintro rfl
          exact absurd hturn (by rw [hkind]; exact Nat.lt_irrefl _)

/-- The literals of a kind that the text between two literals is cut to. -/
def spansBetween (kind : LiteralKind) (qs : List Piece) (chars : List Char) (rs : List Piece) :
    List Span :=
  spansFrom (qs.flatMap Piece.chars).length
    (cut kind (qs.flatMap Piece.chars).getLast? (rs.flatMap Piece.chars).head? chars)

/-- The literals after one turn more are those before, and those between them. -/
theorem Recognized.mem_refine (h : Recognized kind.turn text ps) :
    s ∈ spansFrom 0 (Step.refine kind none ps) ↔
      s ∈ spansFrom 0 ps ∨
        ∃ qs chars rs, ps = qs ++ .text chars :: rs ∧ s ∈ spansBetween kind qs chars rs := by
  have hne : ∀ t ∈ spansFrom 0 ps, t.chars ≠ [] := by
    intro t ht
    obtain ⟨⟨front, back, -, -, hfits⟩, -⟩ := h.sound t ht
    exact hfits.ne_nil
  refine (mem_spansFrom_refine kind [] hne).trans (or_congr_right ?_)
  refine exists_congr fun qs => exists_congr fun chars => exists_congr fun rs => ?_
  refine and_congr_right fun hps => ?_
  subst hps
  rw [h.head?_behind.1]
  rfl

theorem Recognized.isIn_of_mem_spansBetween
    (h : Recognized kind.turn text (qs ++ .text chars :: rs))
    (hs : s ∈ spansBetween kind qs chars rs) : s.IsIn text ∧ s.kind = kind := by
  rw [← h.chars, List.flatMap_append, List.flatMap_cons, Piece.chars]
  exact isIn_of_mem_cut kind _ chars (rs.flatMap Piece.chars) h.head?_behind.2 s hs

theorem Recognized.mem_or_overlaps_spansBetween
    (h : Recognized s.kind.turn text (qs ++ .text chars :: rs)) (hin : s.IsIn text)
    (hstart : (qs.flatMap Piece.chars).length ≤ s.start)
    (hstop : s.stop ≤ (qs.flatMap Piece.chars).length + chars.length) :
    s ∈ spansBetween s.kind qs chars rs ∨
      ∃ t ∈ spansBetween s.kind qs chars rs, t.Overlaps s ∧ t.start < s.start := by
  rw [← h.chars, List.flatMap_append, List.flatMap_cons, Piece.chars] at hin
  exact mem_or_overlaps_cut _ chars _ hin hstart hstop

/-- One turn more. -/
theorem Recognized.refine (kind : LiteralKind) (h : Recognized kind.turn text ps) :
    Recognized (kind.turn + 1) text (refine kind none ps) := by
  refine ⟨by rw [flatMap_chars_refine, h.chars], h.parted.refine kind none, ?_, ?_⟩
  · intro s hs
    obtain hold | ⟨qs, chars, rs, rfl, hnew⟩ := h.mem_refine.mp hs
    · exact ⟨(h.sound s hold).1, Nat.lt_succ_of_lt (h.sound s hold).2⟩
    · obtain ⟨hin, hkind⟩ := h.isIn_of_mem_spansBetween hnew
      exact ⟨hin, by rw [hkind]; exact Nat.lt_succ_self _⟩
  · intro s hin hturn
    by_cases hold : s.kind.turn < kind.turn
    · obtain hfound | ⟨t, ht, hbefore⟩ := h.complete s hin hold
      · exact .inl (h.mem_refine.mpr (.inl hfound))
      · exact .inr ⟨t, h.mem_refine.mpr (.inl ht), hbefore⟩
    · have hkind : s.kind = kind := turn_injective (by omega)
      subst hkind
      obtain ⟨qs, chars, rs, rfl, hstart, hstop⟩ | ⟨t, ht, hover⟩ :=
        in_text_or_overlaps h.parted hin.start_lt_stop (Nat.zero_le _)
          (by rw [h.chars, Nat.zero_add]; exact hin.stop_le)
      · rw [Nat.zero_add] at hstart hstop
        have hfound {t : Span} (ht : t ∈ spansBetween s.kind qs chars rs) :=
          h.mem_refine.mpr (.inr ⟨qs, chars, rs, rfl, ht⟩)
        obtain hs | ⟨t, ht, hover, hleft⟩ := h.mem_or_overlaps_spansBetween hin hstart hstop
        · exact .inl (hfound hs)
        · have hsame : t.kind = s.kind := (h.isIn_of_mem_spansBetween ht).2
          exact .inr ⟨t, hfound ht, hover, .inr ⟨hsame, hleft⟩⟩
      · exact .inr ⟨t, h.mem_refine.mpr (.inl ht), hover, .inl (h.sound t ht).2⟩

theorem recognized_pieces (text : List Char) : Recognized 3 text (pieces text) := by
  have hdouble : Recognized 1 text (refine .doubleQuoted none [.text text]) :=
    (recognized_text text).refine .doubleQuoted
  have hsingle : Recognized 2 text
      (refine .singleQuoted none (refine .doubleQuoted none [.text text])) :=
    hdouble.refine .singleQuoted
  exact hsingle.refine .integer

theorem flatMap_chars_map_piece (ts : List Token) :
    (ts.map Token.piece).flatMap Piece.chars = ts.flatMap Token.chars := by
  rw [List.flatMap_map]
  congr 1
  funext t
  cases t with
  | text chars => rfl
  | literal kind chars index => rfl

/-- A literal among the tokens of a text may be one between the tokens in front of it and those
behind. -/
theorem fits_of_tokenize_eq {ts us : List Token} {index : Nat}
    (h : tokenize text = ts ++ .literal kind chars index :: us) :
    kind.Fits (ts.flatMap Token.chars) chars (us.flatMap Token.chars) := by
  have hchars := flatMap_chars_tokenize text
  have hspan : ⟨kind, (ts.flatMap Token.chars).length, chars⟩ ∈ spansFrom 0 (pieces text) := by
    rw [← literals_eq_spansFrom_pieces, literals, h, List.map_append, spansFrom_append,
      flatMap_chars_map_piece, Nat.zero_add]
    exact List.mem_append_right _ List.mem_cons_self
  obtain ⟨⟨front, back, htext, hstart, hfits⟩, -⟩ := (recognized_pieces text).sound _ hspan
  rw [h, List.flatMap_append, List.flatMap_cons, Token.chars, htext] at hchars
  obtain ⟨rfl, hbehind⟩ := List.append_inj hchars hstart.symm
  obtain rfl := List.append_cancel_left hbehind
  exact hfits

/-- The literals of a text are parts of it that may be one. Such a part is only left out where a
literal goes into it that is of a kind looked for earlier, or of the same kind and further
left. -/
theorem literals_exact (text : List Char) :
    (∀ s ∈ literals text, s.IsIn text) ∧
      ∀ s : Span, s.IsIn text → s ∉ literals text →
        ∃ t ∈ literals text, t.Overlaps s ∧ t.Precedes s := by
  have hpieces := recognized_pieces text
  rw [literals_eq_spansFrom_pieces]
  constructor
  · intro s hs
    exact (hpieces.sound s hs).1
  · intro s hin hmissing
    have hturn : s.kind.turn < 3 := s.kind.turn_lt
    exact (hpieces.complete s hin hturn).resolve_left hmissing

/-- An apostrophe in a word begins no literal, and digits need no white space behind them. -/
example : literals "it's 'a' 42b".toList =
    [⟨.singleQuoted, 5, ['\'', 'a', '\'']⟩, ⟨.integer, 9, ['4', '2']⟩] := by
  cbv

end Stepwise.Step
