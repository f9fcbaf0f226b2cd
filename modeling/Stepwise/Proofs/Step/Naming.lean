import Stepwise.Proofs.Step.Recognition
import Stepwise.Step.Name

/-!
# Names of steps are identifiers

The name of a step consists of letters and underscores, whatever its text is and however it is
romanized. Main statement: such a name does not begin with a small letter, and it is its own name.
-/

namespace Stepwise.Step

/-- Letters and underscores that do not begin with a small letter. -/
def IsName (chars : List Char) : Prop :=
  (∀ c ∈ chars, isNameCharacter c = true) ∧ ∀ c ∈ chars.head?, c.isLower = false

/-! The characters of names. -/

theorem isNameCharacter_ascii {c : Char} (h : isNameCharacter c = true) : c.toNat < 0x80 := by
  rcases Bool.or_eq_true_iff.mp h with halpha | hlow
  · have hletter := Unicode.toNat_of_isAlpha halpha
    omega
  · rw [of_decide_eq_true hlow]
    decide

/-- What holds of each name character is checked for the characters of ASCII. -/
theorem forall_isNameCharacter {p : Char → Bool}
    (hall : ∀ n < 0x80, isNameCharacter (Char.ofNat n) = true → p (Char.ofNat n) = true)
    {c : Char} (h : isNameCharacter c = true) : p c = true := by
  have hc := hall c.toNat (isNameCharacter_ascii h)
  rw [Char.ofNat_toNat] at hc
  exact hc h

theorem isSpace_of_isNameCharacter {c : Char} (h : isNameCharacter c = true) :
    Unicode.isSpace c = false := by
  have hspace := forall_isNameCharacter (p := fun c => !Unicode.isSpace c) (by decide) h
  simpa using hspace

theorem has_decimalNumber_of_isNameCharacter {c : Char} (h : isNameCharacter c = true) :
    Unicode.Category.decimalNumber.has c = false := by
  have hdigit := forall_isNameCharacter (p := fun c => !Unicode.Category.decimalNumber.has c)
    (by decide) h
  simpa using hdigit

theorem isNameCharacter_toUpper {c : Char} (h : isNameCharacter c = true) :
    isNameCharacter c.toUpper = true :=
  forall_isNameCharacter (p := fun c => isNameCharacter c.toUpper) (by decide) h

theorem isLower_toUpper {c : Char} (h : isNameCharacter c = true) : c.toUpper.isLower = false := by
  have hupper : (!c.toUpper.isLower) = true :=
    forall_isNameCharacter (p := fun c => !c.toUpper.isLower) (by decide) h
  rwa [Bool.not_eq_true'] at hupper

theorem toUpper_eq_self {c : Char} (h : isNameCharacter c = true) (hlower : c.isLower = false) :
    c.toUpper = c := by
  have hsame := forall_isNameCharacter (p := fun c => c.isLower || c.toUpper = c) (by decide) h
  simpa [hlower] using hsame

/-! Joined words. -/

variable {chars text : List Char}

theorem isNameCharacter_of_mem_joinWords
    (h : ∀ c ∈ chars, isNameCharacter c = true ∨ Unicode.isSpace c = true) (atStart : Bool) :
    ∀ c ∈ joinWords atStart chars, isNameCharacter c = true := by
  induction chars generalizing atStart with
  | nil => simp [joinWords]
  | cons c rest ih =>
      obtain ⟨hfirst, hrest⟩ := List.forall_mem_cons.mp h
      rw [joinWords]
      split
      · exact ih hrest true
      · rename_i hspace
        have hc : isNameCharacter c = true := hfirst.resolve_right hspace
        rw [List.forall_mem_cons]
        refine ⟨?_, ih hrest false⟩
        split
        · exact isNameCharacter_toUpper hc
        · exact hc

/-- The first of some words is capitalized, too, wherever it begins. -/
theorem isLower_head?_joinWords
    (h : ∀ c ∈ chars, isNameCharacter c = true ∨ Unicode.isSpace c = true) :
    ∀ c ∈ (joinWords true chars).head?, c.isLower = false := by
  induction chars with
  | nil => simp [joinWords]
  | cons c rest ih =>
      obtain ⟨hfirst, hrest⟩ := List.forall_mem_cons.mp h
      rw [joinWords]
      split
      · exact ih hrest
      · rename_i hspace
        intro d hd
        rw [if_pos rfl, List.head?_cons, Option.mem_some_iff] at hd
        rw [← hd]
        exact isLower_toUpper (hfirst.resolve_right hspace)

theorem joinWords_false_eq_self (h : ∀ c ∈ chars, isNameCharacter c = true) :
    joinWords false chars = chars := by
  induction chars with
  | nil => rfl
  | cons c rest ih =>
      obtain ⟨hfirst, hrest⟩ := List.forall_mem_cons.mp h
      rw [joinWords, isSpace_of_isNameCharacter hfirst, ih hrest]
      rfl

/-- Whatever is left of a text makes a name. -/
theorem isName_nameIn (text : List Char) : IsName (nameIn text) := by
  have hkept : ∀ c ∈ text.filter fun c => isNameCharacter c || Unicode.isSpace c,
      isNameCharacter c = true ∨ Unicode.isSpace c = true := by
    intro c hc
    exact Bool.or_eq_true_iff.mp (List.mem_filter.mp hc).2
  exact ⟨isNameCharacter_of_mem_joinWords hkept true, isLower_head?_joinWords hkept⟩

/-- Nothing is deleted from a name, and it is one word with a capital already. -/
theorem nameIn_eq_self (h : IsName chars) : nameIn chars = chars := by
  obtain ⟨hall, hhead⟩ := h
  have hkept : (chars.filter fun c => isNameCharacter c || Unicode.isSpace c) = chars := by
    rw [List.filter_eq_self]
    intro c hc
    rw [hall c hc, Bool.true_or]
  rw [nameIn, hkept]
  cases chars with
  | nil => rfl
  | cons c rest =>
      obtain ⟨hfirst, hrest⟩ := List.forall_mem_cons.mp hall
      rw [joinWords, isSpace_of_isNameCharacter hfirst, joinWords_false_eq_self hrest]
      simp only [Bool.false_eq_true, if_false, if_true]
      rw [toUpper_eq_self hfirst (hhead c rfl)]

/-! Texts without literals. -/

/-- A literal has a quote or a digit, which are no name characters. -/
theorem LiteralKind.Writes.exists_not_isNameCharacter {kind : LiteralKind}
    (h : kind.Writes chars) : ∃ c ∈ chars, isNameCharacter c = false := by
  obtain ⟨value, hne, hallowed, rfl⟩ := h
  cases kind with
  | doubleQuoted => exact ⟨'"', by simp [written, quotes], by decide⟩
  | singleQuoted => exact ⟨'\'', by simp [written, quotes], by decide⟩
  | integer =>
      obtain ⟨c, others, rfl⟩ := List.exists_cons_of_ne_nil hne
      refine ⟨c, by simp [written, quotes], ?_⟩
      by_contra hname
      rw [Bool.not_eq_false] at hname
      have hdigit := hallowed.2 c List.mem_cons_self
      rw [has_decimalNumber_of_isNameCharacter hname] at hdigit
      exact Bool.noConfusion hdigit

theorem Bounded.isLiteral_eq_false {before : Option Char} {ps : List Piece}
    (h : Bounded before ps) (hall : ∀ c ∈ ps.flatMap Piece.chars, isNameCharacter c = true) :
    ∀ p ∈ ps, p.isLiteral = false := by
  induction ps generalizing before with
  | nil => simp
  | cons p ps ih =>
      rw [List.flatMap_cons, List.forall_mem_append] at hall
      rw [List.forall_mem_cons]
      cases p with
      | text chars => exact ⟨rfl, ih h hall.2⟩
      | literal kind chars =>
          obtain ⟨c, hc, hname⟩ := h.2.1.exists_not_isNameCharacter
          rw [hall.1 c hc] at hname
          exact Bool.noConfusion hname

theorem flatMap_plain_number {ps : List Piece} (h : ∀ p ∈ ps, p.isLiteral = false)
    (next : LiteralKind → Nat) :
    ((number next ps).flatMap fun
      | .text chars => chars
      | .literal .. => []) = ps.flatMap Piece.chars := by
  induction ps generalizing next with
  | nil => rfl
  | cons p ps ih =>
      obtain ⟨hfirst, hrest⟩ := List.forall_mem_cons.mp h
      cases p with
      | text chars => exact congrArg (chars ++ ·) (ih hrest next)
      | literal kind chars => exact Bool.noConfusion hfirst

/-- Name characters alone make no literal. -/
theorem plainText_eq_self (h : ∀ c ∈ text, isNameCharacter c = true) : plainText text = text := by
  have hall : ∀ c ∈ (pieces text).flatMap Piece.chars, isNameCharacter c = true := by
    rwa [flatMap_chars_pieces]
  have hplain : plainText text = (pieces text).flatMap Piece.chars :=
    flatMap_plain_number ((bounded_pieces text).isLiteral_eq_false hall) _
  rw [hplain, flatMap_chars_pieces]

/-- A name is its own name, if it stays as it is when it is romanized. -/
theorem nameIn_romanized_eq_self {romanization : List Char → List Char}
    (hkeeps : ∀ chars, (∀ c ∈ chars, isNameCharacter c = true) → romanization chars = chars)
    (h : IsName chars) : nameIn (romanization (plainText chars)) = chars := by
  rw [plainText_eq_self h.1, hkeeps chars h.1, nameIn_eq_self h]

/-- However step texts are romanized, as long as letters and underscores stay as they are: the
name of a step consists of letters and underscores, does not begin with a small letter, and is the
name of the step that has it as its text. -/
theorem nameIn_romanized (romanization : List Char → List Char)
    (hkeeps : ∀ chars, (∀ c ∈ chars, isNameCharacter c = true) → romanization chars = chars)
    (text : List Char) :
    let name := nameIn (romanization (plainText text))
    (∀ c ∈ name, c.isAlpha = true ∨ c = '_') ∧ (∀ c ∈ name.head?, c.isLower = false) ∧
      nameIn (romanization (plainText name)) = name := by
  intro name
  have hname : IsName name := isName_nameIn _
  refine ⟨fun c hc => ?_, hname.2, nameIn_romanized_eq_self hkeeps hname⟩
  simpa [isNameCharacter] using hname.1 c hc

/-- The romanization of a name is the name. -/
theorem romanize_of_isNameCharacter (h : ∀ c ∈ chars, isNameCharacter c = true) :
    romanize chars = chars := by
  apply romanize_basic
  intro c hc
  exact forall_isNameCharacter (p := isBasic) (by decide) (h c hc)

/-- The steps that are called by their own texts are those whose texts are names. -/
theorem stepName_eq_self_iff : stepName text = text ↔ IsName text := by
  constructor
  · intro h
    rw [← h]
    exact isName_nameIn _
  · exact nameIn_romanized_eq_self fun _ => romanize_of_isNameCharacter

/-- A step with literals, with a letter for which two are written, and with a character that is
written as signs and not as letters. -/
theorem nameIn_romanized_street :
    let text := "die Straße's ½ \"Öl\" kostet 5 _cent".toList
    (∀ chars, (∀ c ∈ chars, isNameCharacter c = true) → romanize chars = chars) ∧
      stepName text = "DieStrassesKostet_cent".toList ∧
      stepName (stepName text) = stepName text ∧
      ∀ c ∈ stepName text, c.isAlpha = true ∨ c = '_' := by
  intro text
  have hkeeps : ∀ chars, (∀ c ∈ chars, isNameCharacter c = true) → romanize chars = chars :=
    fun _ => romanize_of_isNameCharacter
  obtain ⟨hletters, -, hagain⟩ := nameIn_romanized romanize hkeeps text
  exact ⟨hkeeps, by decide +kernel, hagain, hletters⟩

end Stepwise.Step
