import Stepwise.Pattern.Delimited
import Stepwise.Proofs.Step.Exchange

/-!
# Patterns of step texts with other values

Steps that differ in the values of their literals only share one definition. Main statement: a
step text with other values in its literals has the same pieces, but for these values, and so the
same pattern is generated for it in either notation.
-/

namespace Stepwise

namespace Step

variable {kind : LiteralKind} {old new : List Char} {ps qs : List Piece}

/-- Whether the value of a literal may be replaced by another one. Quotes in a value, and white
space behind an opening quote, may make a literal of another part of the text. -/
def LiteralKind.Replaces : LiteralKind → List Char → List Char → Prop
  | .integer, _, new => new ≠ [] ∧ ∀ c ∈ new, c.isDigit = true
  | _, old, new => new ≠ [] ∧ new.head?.any Unicode.isSpace = false ∧
      ∀ quote ∈ ['"', '\''], quote ∉ old ∧ quote ∉ new

/-- Pieces are the same but for the values of some literals. -/
inductive Revalued : List Piece → List Piece → Prop
  | nil : Revalued [] []
  | kept {p : Piece} {ps qs : List Piece} (rest : Revalued ps qs) : Revalued (p :: ps) (p :: qs)
  | replaced {kind : LiteralKind} {old new : List Char} {ps qs : List Piece}
      (allowed : kind.Replaces old new) (rest : Revalued ps qs) :
      Revalued (.literal kind (kind.written old) :: ps) (.literal kind (kind.written new) :: qs)

theorem quotes_injective {other : LiteralKind} {quote : Char} (h : kind.quotes = [quote])
    (hother : other.quotes = [quote]) : kind = other := by
  rw [← hother] at h
  cases kind with
  | doubleQuoted => cases other <;> first | rfl | exact absurd h (by decide)
  | singleQuoted => cases other <;> first | rfl | exact absurd h (by decide)
  | integer => cases other <;> first | rfl | exact absurd h (by decide)

theorem mem_quotes_of_quotes {quote : Char} (h : kind.quotes = [quote]) :
    quote ∈ ['"', '\''] := by
  cases kind with
  | doubleQuoted => rw [← List.singleton_inj.mp h]; decide
  | singleQuoted => rw [← List.singleton_inj.mp h]; decide
  | integer => exact absurd h (by simp [LiteralKind.quotes])

theorem written_eq_of_quotes {quote : Char} (h : kind.quotes = [quote]) (value : List Char) :
    kind.written value = quote :: (value ++ [quote]) := by
  rw [LiteralKind.written, h, List.append_assoc, List.singleton_append]

/-- A value without quotes may be exchanged for another one between the same quotes. -/
theorem exchanges_of_quotes {quote : Char} (hquote : kind.quotes = [quote]) (hne : new ≠ [])
    (hspace : new.head?.any Unicode.isSpace = false)
    (hvalues : ∀ quote ∈ ['"', '\''], quote ∉ old ∧ quote ∉ new) :
    Exchanges kind (kind.written old) (kind.written new) := by
  rw [written_eq_of_quotes hquote, written_eq_of_quotes hquote]
  constructor
  · refine ⟨List.cons_ne_nil _ _, List.cons_ne_nil _ _, .refl _, ?_⟩
    rw [← List.cons_append, ← List.cons_append, List.getLast?_concat, List.getLast?_concat]
    exact .refl _
  · intro front back hfits
    obtain ⟨-, hbounds⟩ := (LiteralKind.fits_iff_isQuotedSpan hquote).mp hfits
    refine (LiteralKind.fits_iff_isQuotedSpan hquote).mpr ⟨⟨new, hne, ?_, rfl⟩, hbounds⟩
    exact (hvalues quote (mem_quotes_of_quotes hquote)).2
  · intro other found hturn hfound
    have hother : found ≠ quote := by
      rintro rfl
      rw [quotes_injective hfound hquote] at hturn
      exact absurd hturn (Nat.lt_irrefl _)
    have hnot := hvalues found (mem_quotes_of_quotes hfound)
    constructor
    · simp [hother, hnot.1]
    · simp [hother, hnot.2]
  · intro opening hopening
    obtain rfl : quote = opening := List.singleton_inj.mp (hquote.symm.trans hopening)
    obtain ⟨c, rest, rfl⟩ := List.exists_cons_of_ne_nil hne
    exact ⟨c, rest ++ [quote], rfl, by simpa [isBoundary] using hspace⟩

theorem alikeNeighbours_of_isDigit {c d : Char} (hc : c.isDigit = true) (hd : d.isDigit = true) :
    AlikeNeighbours (some c) (some d) := by
  have hboundary {e : Char} (he : e.isDigit = true) : isBoundary (some e) = false := by
    rw [← Bool.not_eq_true]
    intro hspace
    have hdigit := any_isDigit_of_isBoundary hspace
    rw [Option.any_some, he] at hdigit
    exact absurd hdigit (by decide)
  exact ⟨(hboundary hc).trans (hboundary hd).symm, hc.trans hd.symm⟩

/-- A run of digits may be exchanged for another one. -/
theorem exchanges_of_isDigit (hold : old ≠ []) (hdigits : ∀ c ∈ old, c.isDigit = true)
    (hne : new ≠ []) (hvalue : ∀ c ∈ new, c.isDigit = true) :
    Exchanges .integer (LiteralKind.integer.written old) (LiteralKind.integer.written new) := by
  have hwritten (value : List Char) : LiteralKind.integer.written value = value :=
    List.append_nil value
  rw [hwritten, hwritten]
  constructor
  · refine ⟨hold, hne, ?_, ?_⟩
    · rw [List.head?_eq_some_head hold, List.head?_eq_some_head hne]
      exact alikeNeighbours_of_isDigit (hdigits _ (List.head_mem hold)) (hvalue _ (List.head_mem hne))
    · rw [List.getLast?_eq_some_getLast hold, List.getLast?_eq_some_getLast hne]
      exact alikeNeighbours_of_isDigit (hdigits _ (List.getLast_mem hold))
        (hvalue _ (List.getLast_mem hne))
  · rintro front back ⟨-, -, hends⟩
    exact ⟨hne, hvalue, hends⟩
  · intro other quote hturn hquote
    have hquotes : ∀ quote ∈ ['"', '\''], quote.isDigit = false := by simp
    have hdigit := hquotes quote (mem_quotes_of_quotes hquote)
    constructor
    · intro hmem
      exact absurd (hdigits quote hmem) (by simp [hdigit])
    · intro hmem
      exact absurd (hvalue quote hmem) (by simp [hdigit])
  · intro quote hquote
    exact absurd hquote (by simp [LiteralKind.quotes])

/-- A literal of a text whose value may be replaced may be exchanged for one with the new value. -/
theorem LiteralKind.Replaces.exchanges {front back : List Char} (h : kind.Replaces old new)
    (hfits : kind.Fits front (kind.written old) back) :
    Exchanges kind (kind.written old) (kind.written new) := by
  cases kind with
  | doubleQuoted => exact exchanges_of_quotes rfl h.1 h.2.1 h.2.2
  | singleQuoted => exact exchanges_of_quotes rfl h.1 h.2.1 h.2.2
  | integer =>
      obtain ⟨hold, hdigits, -⟩ := hfits
      have hwritten : LiteralKind.integer.written old = old := List.append_nil old
      rw [hwritten] at hold hdigits
      exact exchanges_of_isDigit hold hdigits h.1 h.2

/-- One literal with another value leaves the pieces of a text as they are. -/
theorem pieces_replaced (allowed : kind.Replaces old new)
    (hpieces : pieces ((ps ++ .literal kind (kind.written old) :: qs).flatMap Piece.chars) =
      ps ++ .literal kind (kind.written old) :: qs) :
    pieces ((ps ++ .literal kind (kind.written new) :: qs).flatMap Piece.chars) =
      ps ++ .literal kind (kind.written new) :: qs := by
  have hrecognized := recognized_pieces
    ((ps ++ .literal kind (kind.written old) :: qs).flatMap Piece.chars)
  have hne := ne_nil_of_mem_pieces
    ((ps ++ .literal kind (kind.written old) :: qs).flatMap Piece.chars)
  rw [hpieces] at hrecognized hne
  obtain ⟨⟨front, back, -, -, hfits⟩, -⟩ := hrecognized.sound
    ⟨kind, (ps.flatMap Piece.chars).length, kind.written old⟩
    (mem_spansFrom_middle.mpr (.inr (.inl rfl)))
  have hexchanges := allowed.exchanges hfits
  rw [List.forall_mem_append, List.forall_mem_cons] at hne
  refine ((hrecognized.exchange hexchanges).eq_pieces ?_).symm
  rw [List.forall_mem_append, List.forall_mem_cons]
  exact ⟨hne.1, hexchanges.alike.others_ne_nil, hne.2.2⟩

/-- A text with other values in its literals has the same pieces, but for these values. The
pieces in front of those that are compared are already as they are in the new text. -/
theorem Revalued.pieces_eq (h : Revalued ps qs) {front : List Piece}
    (hpieces : pieces ((front ++ ps).flatMap Piece.chars) = front ++ ps) :
    pieces ((front ++ qs).flatMap Piece.chars) = front ++ qs := by
  induction h generalizing front with
  | nil => exact hpieces
  | kept rest ih =>
      rw [List.append_cons] at hpieces ⊢
      exact ih hpieces
  | replaced allowed rest ih =>
      have hreplaced := pieces_replaced allowed hpieces
      rw [List.append_cons] at hreplaced ⊢
      exact ih hreplaced

/-- The pieces of a text with other values have literals of the same kinds. -/
theorem Revalued.countKind_eq (h : Revalued ps qs) (kind : LiteralKind) :
    countKind kind ps = countKind kind qs := by
  induction h with
  | nil => rfl
  | kept rest ih => simpa only [countKind, List.countP_cons, Nat.add_right_cancel_iff] using ih
  | replaced allowed rest ih =>
      simpa only [countKind, List.countP_cons, Nat.add_right_cancel_iff] using ih

/-- What does not depend on the characters of literals is the same for both lists of tokens. -/
theorem Revalued.map_number {α : Type} {f : Token → α}
    (hf : ∀ kind chars others index,
      f (.literal kind chars index) = f (.literal kind others index))
    (h : Revalued ps qs) (next : LiteralKind → Nat) :
    (number next ps).map f = (number next qs).map f := by
  induction h generalizing next with
  | nil => rfl
  | @kept p ps qs rest ih =>
      cases p with
      | text chars => rw [number, number, List.map_cons, List.map_cons, ih]
      | literal kind chars => rw [number, number, List.map_cons, List.map_cons, ih]
  | replaced allowed rest ih =>
      rw [number, number, List.map_cons, List.map_cons, ih, hf]

theorem Revalued.map_tokenize {α : Type} {f : Token → α} {text : List Char}
    (hf : ∀ kind chars others index,
      f (.literal kind chars index) = f (.literal kind others index))
    (h : Revalued (pieces text) qs) :
    (tokenize (qs.flatMap Piece.chars)).map f = (tokenize text).map f := by
  have htext : pieces (([] ++ pieces text).flatMap Piece.chars) = [] ++ pieces text := by
    rw [List.nil_append, flatMap_chars_pieces]
  have hpieces : pieces (qs.flatMap Piece.chars) = qs := h.pieces_eq htext
  rw [tokenize, tokenize, hpieces]
  simp only [h.countKind_eq]
  exact (h.map_number hf _).symm

end Step

open Step

/-- Steps that only differ in the values of their literals share one definition: however texts are
romanized, a step text with other values in some of its literals gives the pattern of the text
itself in both notations, with the same name and the same number of placeholders. -/
theorem generate_revalued (romanization : List Char → List Char) (text : String)
    (qs : List Piece) (h : Revalued (pieces text.toList) qs) :
    let turnip := turnipNotationBy romanization
    let delimited := delimitedNotationBy romanization
    let revalued := String.ofList (qs.flatMap Piece.chars)
    turnip.generate revalued = turnip.generate text ∧
      delimited.generate revalued = delimited.generate text := by
  intro turnip delimited revalued
  have hrevalued : revalued.toList = qs.flatMap Piece.chars := String.toList_ofList
  have hmap {α : Type} {f : Token → α}
      (hf : ∀ kind chars others index,
        f (.literal kind chars index) = f (.literal kind others index)) :
      (tokenize revalued.toList).map f = (tokenize text.toList).map f := by
    rw [hrevalued]
    exact h.map_tokenize hf
  have hflat {f : Token → List Char}
      (hf : ∀ kind chars others index,
        f (.literal kind chars index) = f (.literal kind others index)) :
      (tokenize revalued.toList).flatMap f = (tokenize text.toList).flatMap f := by
    rw [List.flatMap_def, List.flatMap_def, hmap hf]
  have hname : nameBy romanization revalued.toList = nameBy romanization text.toList := by
    rw [nameBy, nameBy, plainText, plainText, hflat fun _ _ _ _ => rfl]
  have hcount : literalCount revalued.toList = literalCount text.toList := by
    have hliterals := hmap (f := Token.isLiteral) fun _ _ _ _ => rfl
    rw [literalCount, literalCount, ← Function.id_comp Token.isLiteral, ← List.countP_map,
      ← List.countP_map, hliterals]
  constructor
  · simp only [turnip, turnipNotationBy, Turnip.generate, hname, hcount]
    rw [hflat (f := Turnip.sourceOf) fun _ _ _ _ => rfl]
  · simp only [delimited, delimitedNotationBy, Delimited.generate, hname, hcount]
    rw [hflat (f := Delimited.sourceOf) fun _ _ _ _ => rfl]

/-- The quotes around a part of a word make no literal, whatever values stand in front of them and
behind them. -/
theorem generate_revalued_basket :
    let text := "I put \" pears\" and \"x\"y into 'my' basket 12 times"
    let revalued := "I put \"red apples \" and \"x\"y into 'his' basket 7 times"
    let qs := [.text "I put ".toList,
      .literal .doubleQuoted (LiteralKind.doubleQuoted.written "red apples ".toList),
      .text " and \"x\"y into ".toList,
      .literal .singleQuoted (LiteralKind.singleQuoted.written "his".toList),
      .text " basket ".toList, .literal .integer (LiteralKind.integer.written "7".toList),
      .text " times".toList]
    Revalued (pieces text.toList) qs ∧
      turnipNotation.generate revalued = turnipNotation.generate text ∧
      delimitedNotation.generate revalued = delimitedNotation.generate text := by
  intro text revalued qs
  have hpieces : pieces text.toList = [.text "I put ".toList,
      .literal .doubleQuoted (LiteralKind.doubleQuoted.written " pears".toList),
      .text " and \"x\"y into ".toList,
      .literal .singleQuoted (LiteralKind.singleQuoted.written "my".toList),
      .text " basket ".toList, .literal .integer (LiteralKind.integer.written "12".toList),
      .text " times".toList] := by
    decide +kernel
  have h : Revalued (pieces text.toList) qs := by
    rw [hpieces]
    exact .kept (.replaced ⟨by simp, by decide, by simp⟩ (.kept (.replaced
      ⟨by simp, by decide, by simp⟩ (.kept (.replaced ⟨by simp, by simp⟩ (.kept .nil))))))
  have hrevalued : String.ofList (qs.flatMap Piece.chars) = revalued := by decide +kernel
  exact ⟨h, hrevalued ▸ generate_revalued romanize text qs h⟩

end Stepwise
