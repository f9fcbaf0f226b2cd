import Stepwise.Pattern.Unescape

/-!
# Reading escapes in pairs

A text is read from left to right in units: a backslash and the character behind it are a pair,
and any other character stands alone. Main statement: a text is unescaped unit by unit, and only
the pairs of the given characters change.
-/

namespace Stepwise

/-- A text is read as some units. -/
inductive InUnits : List Char → List (List Char) → Prop
  | nil : InUnits [] []
  | single {c : Char} {rest : List Char} {units : List (List Char)} (alone : c ≠ '\\')
      (behind : InUnits rest units) : InUnits (c :: rest) ([c] :: units)
  | pair {c : Char} {rest : List Char} {units : List (List Char)}
      (behind : InUnits rest units) : InUnits ('\\' :: c :: rest) (['\\', c] :: units)
  /-- A backslash at the end has no partner. -/
  | last : InUnits ['\\'] [['\\']]

/-- A unit without its backslash, if it is a pair of one of the given characters. -/
def bareUnit (chars unit : List Char) : List Char :=
  if unit ∈ chars.map (['\\', ·]) then unit.tail else unit

/-- A property of texts holds if each unit in front keeps it. -/
@[elab_as_elim]
theorem units_induction {motive : List Char → Prop} (nil : motive [])
    (single : ∀ c rest, c ≠ '\\' → motive rest → motive (c :: rest))
    (pair : ∀ c rest, motive rest → motive ('\\' :: c :: rest))
    (last : motive ['\\']) : ∀ text, motive text
  | [] => nil
  | c :: rest => by
      by_cases hc : c = '\\'
      · subst hc
        cases rest with
        | nil => exact last
        | cons d rest => exact pair d rest (units_induction nil single pair last rest)
      · exact single c rest hc (units_induction nil single pair last rest)

/-- Every text can be read in units. -/
theorem exists_inUnits (text : List Char) : ∃ units, InUnits text units := by
  induction text using units_induction with
  | nil => exact ⟨[], .nil⟩
  | single c rest alone ih =>
      obtain ⟨units, hunits⟩ := ih
      exact ⟨_, .single alone hunits⟩
  | pair c rest ih =>
      obtain ⟨units, hunits⟩ := ih
      exact ⟨_, .pair hunits⟩
  | last => exact ⟨_, .last⟩

variable {chars text : List Char} {units : List (List Char)}

theorem InUnits.flatten (h : InUnits text units) : units.flatten = text := by
  induction h with
  | nil => rfl
  | single alone behind ih => rw [List.flatten_cons, ih, List.singleton_append]
  | pair behind ih => rw [List.flatten_cons, ih, List.cons_append, List.singleton_append]
  | last => rfl

theorem unescape_pair (chars : List Char) (c : Char) (rest : List Char) :
    unescape chars ('\\' :: c :: rest) =
      if c ∈ chars then c :: unescape chars rest else '\\' :: c :: unescape chars rest :=
  if_pos rfl

theorem bareUnit_single (chars : List Char) (c : Char) : bareUnit chars [c] = [c] :=
  if_neg (by simp)

theorem bareUnit_pair (chars : List Char) (c : Char) :
    bareUnit chars ['\\', c] = if c ∈ chars then [c] else ['\\', c] := by
  simp [bareUnit]

/-- A text is unescaped unit by unit. -/
theorem InUnits.unescape_eq (h : InUnits text units) :
    unescape chars text = units.flatMap (bareUnit chars) := by
  induction h with
  | nil => rfl
  | single alone behind ih =>
      rw [unescape_cons alone, List.flatMap_cons, bareUnit_single, ih, List.singleton_append]
  | pair behind ih =>
      rw [unescape_pair, List.flatMap_cons, bareUnit_pair, ih]
      split
      · rw [List.singleton_append]
      · rw [List.cons_append, List.singleton_append]
  | last => rw [List.flatMap_singleton, bareUnit_single, unescape]

/-! What can be told from a text without its escapes. -/

/-- A text without backslashes stays in front. -/
theorem unescape_append {front : List Char} (h : '\\' ∉ front) (rest : List Char) :
    unescape chars (front ++ rest) = front ++ unescape chars rest := by
  induction front with
  | nil => rfl
  | cons c front ih =>
      rw [List.mem_cons, not_or] at h
      rw [List.cons_append, unescape_cons (Ne.symm h.1), ih h.2, List.cons_append]

theorem unescape_eq_nil_iff : unescape chars text = [] ↔ text = [] := by
  induction text using units_induction with
  | nil => simp [unescape]
  | single c rest alone ih => simp [unescape_cons alone]
  | pair c rest ih =>
      rw [unescape_pair]
      split <;> simp
  | last => simp [unescape]

/-- What comes first is kept, or it is the character behind a backslash. -/
theorem exists_unescape_cons (chars : List Char) (c : Char) (rest : List Char) :
    ∃ b left, unescape chars (c :: rest) = b :: left ∧
      (b = c ∨ c = '\\' ∧ b ∈ chars ∧ ['\\', b] <+: c :: rest) := by
  by_cases hc : c = '\\'
  · cases rest with
    | nil => exact ⟨c, [], rfl, .inl rfl⟩
    | cons b rest =>
        rw [hc, unescape_pair]
        split
        · rename_i hb
          exact ⟨b, _, rfl, .inr ⟨rfl, hb, rest, rfl⟩⟩
        · exact ⟨_, _, rfl, .inl rfl⟩
  · exact ⟨c, _, unescape_cons hc rest, .inl rfl⟩

/-- A character that cannot come from an escape is in front of the text already. -/
theorem unescape_eq_cons_iff {c : Char} (hslash : c ≠ '\\') (hc : c ∉ chars)
    {rest : List Char} :
    unescape chars text = c :: rest ↔
      ∃ written, text = c :: written ∧ unescape chars written = rest := by
  constructor
  · intro h
    cases text using units_induction with
    | nil => exact absurd h (by simp [unescape])
    | single b written alone _ =>
        rw [unescape_cons alone, List.cons.injEq] at h
        exact ⟨written, by rw [h.1], h.2⟩
    | pair b written _ =>
        rw [unescape_pair] at h
        split at h
        · rename_i hb
          rw [List.cons.injEq] at h
          exact absurd (h.1 ▸ hb) hc
        · rw [List.cons.injEq] at h
          exact absurd h.1.symm hslash
    | last =>
        rw [unescape, List.cons.injEq] at h
        exact absurd h.1.symm hslash
  · rintro ⟨written, rfl, rfl⟩
    exact unescape_cons hslash written

theorem head?_unescape_iff {c : Char} (hslash : c ≠ '\\') (hc : c ∉ chars) :
    (unescape chars text).head? = some c ↔ text.head? = some c := by
  rw [List.head?_eq_some_iff, List.head?_eq_some_iff]
  constructor
  · rintro ⟨rest, h⟩
    obtain ⟨written, h, -⟩ := (unescape_eq_cons_iff hslash hc).mp h
    exact ⟨written, h⟩
  · rintro ⟨written, rfl⟩
    exact ⟨_, unescape_cons hslash written⟩

/-- The same of several characters. -/
theorem unescape_eq_append_iff {front : List Char} (hslash : '\\' ∉ front)
    (hfront : ∀ c ∈ front, c ∉ chars) {rest : List Char} :
    unescape chars text = front ++ rest ↔
      ∃ written, text = front ++ written ∧ unescape chars written = rest := by
  induction front generalizing text with
  | nil => simp
  | cons c front ih =>
      rw [List.mem_cons, not_or] at hslash
      rw [List.cons_append, unescape_eq_cons_iff (Ne.symm hslash.1) (hfront c List.mem_cons_self)]
      constructor
      · rintro ⟨written, rfl, h⟩
        obtain ⟨written, rfl, hwritten⟩ :=
          (ih hslash.2 fun b hb => hfront b (List.mem_cons_of_mem c hb)).mp h
        exact ⟨written, rfl, hwritten⟩
      · rintro ⟨written, rfl, h⟩
        exact ⟨front ++ written, rfl,
          (ih hslash.2 fun b hb => hfront b (List.mem_cons_of_mem c hb)).mpr ⟨written, rfl, h⟩⟩

theorem prefix_unescape_iff {front : List Char} (hslash : '\\' ∉ front)
    (hfront : ∀ c ∈ front, c ∉ chars) : front <+: unescape chars text ↔ front <+: text := by
  constructor
  · rintro ⟨rest, heq⟩
    obtain ⟨written, rfl, -⟩ := (unescape_eq_append_iff hslash hfront).mp heq.symm
    exact List.prefix_append front written
  · rintro ⟨written, rfl⟩
    rw [unescape_append hslash]
    exact List.prefix_append front _

/-- A text that is read up to some character is read up to it without the escapes, too. -/
theorem span_unescape (chars : List Char) {p : Char → Bool} {front rest : List Char} {c : Char}
    (htake : text.takeWhile p = front) (hdrop : text.dropWhile p = c :: rest)
    (hfront : '\\' ∉ front) (hc : c ≠ '\\') :
    (unescape chars text).takeWhile p = front ∧
      (unescape chars text).dropWhile p = c :: unescape chars rest := by
  have hall : ∀ b ∈ front, p b = true := htake ▸ List.all_eq_true.mp List.all_takeWhile
  have hstop : p c = false := by
    have hhead := List.head?_dropWhile_not p text
    rw [hdrop] at hhead
    simpa using hhead
  have htext : unescape chars text = front ++ c :: unescape chars rest := by
    rw [← List.takeWhile_append_dropWhile (p := p) (l := text), htake, hdrop,
      unescape_append hfront, unescape_cons hc]
  rw [htext, List.takeWhile_append_of_pos hall, List.dropWhile_append_of_pos hall]
  simp [hstop]

end Stepwise
