import Stepwise.Proofs.Regex.Meaning

/-!
# Accepted pieces

Which pieces a passage matches, whatever places are remembered. Main statement: an
expression between `^` and `$` compiles, unless it is too large, to a program that finds
something in a text exactly if the expression accepts the whole text, and that remembers the
places of such a match.
-/

namespace Stepwise.Regex

namespace Passage

/-- A piece is matched, with some marks. -/
def Accepts (R : Passage) (before piece after : List Char) : Prop :=
  ∃ marks, R before piece after marks

variable {R S : Passage} {before piece after : List Char}

theorem accepts_nil : nil.Accepts before piece after ↔ piece = [] := by
  simp [Accepts, nil]

theorem accepts_text {cs : List Char} : (text cs).Accepts before piece after ↔ piece = cs := by
  simp [Accepts, text]

theorem accepts_either :
    (R.either S).Accepts before piece after ↔
      R.Accepts before piece after ∨ S.Accepts before piece after :=
  exists_or

theorem accepts_andThen :
    (R.andThen S).Accepts before piece after ↔
      ∃ left right, piece = left ++ right ∧ R.Accepts before left (right ++ after) ∧
        S.Accepts (before ++ left) right after := by
  constructor
  · intro h
    obtain ⟨_, left, right, leftMarks, rightMarks, hpiece, -, hR, hS⟩ := h
    exact ⟨left, right, hpiece, ⟨leftMarks, hR⟩, rightMarks, hS⟩
  · intro h
    obtain ⟨left, right, hpiece, ⟨leftMarks, hR⟩, rightMarks, hS⟩ := h
    exact ⟨rightMarks ++ leftMarks, left, right, leftMarks, rightMarks, hpiece, rfl, hR, hS⟩

/-- What may be missing is missing or there once. -/
theorem timesOf_maybe (R : Passage) : R.timesOf (allowedTimes 0 (some 1)) = nil.either R := by
  rw [timesOf_limited, times, nil_andThen, Nat.sub_zero, timesOf_le_succ, timesOf_le_zero,
    andThen_nil]

theorem times_oneOf {s : CharSet} {k : Nat} {marks : List Mark} :
    (oneOf s).times k before piece after marks ↔
      piece.length = k ∧ (∀ c ∈ piece, s.has c = true) ∧ marks = [] := by
  induction k generalizing before piece marks with
  | zero =>
      constructor
      · intro h
        obtain ⟨rfl, rfl⟩ := h
        simp
      · intro h
        obtain ⟨hlength, -, rfl⟩ := h
        exact ⟨List.length_eq_zero_iff.mp hlength, rfl⟩
  | succ k ih =>
      constructor
      · intro h
        obtain ⟨_, right, _, _, rfl, rfl, ⟨⟨c, hc, rfl⟩, rfl⟩, hright⟩ := h
        obtain ⟨hlength, hall, rfl⟩ := ih.mp hright
        refine ⟨by simp [hlength], ?_, rfl⟩
        intro d hd
        rcases List.mem_cons.mp hd with rfl | hd
        · exact hc
        · exact hall d hd
      · intro h
        obtain ⟨hlength, hall, rfl⟩ := h
        cases piece with
        | nil => exact absurd hlength (by simp)
        | cons c piece =>
            refine ⟨[c], piece, [], [], rfl, rfl, ⟨⟨c, hall c List.mem_cons_self, rfl⟩, rfl⟩, ?_⟩
            exact ih.mpr ⟨Nat.succ.inj hlength,
              fun d hd => hall d (List.mem_cons_of_mem c hd), rfl⟩

/-- Characters of a set in a row, at least some number of them. -/
theorem timesOf_oneOf {s : CharSet} {min : Nat} {marks : List Mark} :
    (oneOf s).timesOf (allowedTimes min none) before piece after marks ↔
      min ≤ piece.length ∧ (∀ c ∈ piece, s.has c = true) ∧ marks = [] := by
  constructor
  · intro h
    obtain ⟨k, ⟨hmin, -⟩, hk⟩ := h
    obtain ⟨rfl, hall, hmarks⟩ := times_oneOf.mp hk
    exact ⟨hmin, hall, hmarks⟩
  · intro h
    obtain ⟨hmin, hall, hmarks⟩ := h
    exact ⟨piece.length, ⟨hmin, by simp⟩, times_oneOf.mpr ⟨rfl, hall, hmarks⟩⟩

/-- Characters between two quotes, at least some number of them, which are remembered. -/
def enclosed (quote : Char) (min index : Nat) : Passage :=
  (text [quote]).andThen
    ((((oneOf (Unicode.Ranges.compl (CharSet.single quote))).timesOf
      (allowedTimes min none)).group index).andThen (text [quote]))

theorem enclosed_iff {quote : Char} {min index : Nat} {marks : List Mark} :
    enclosed quote min index before piece after marks ↔
      ∃ value, piece = quote :: (value ++ [quote]) ∧ min ≤ value.length ∧ quote ∉ value ∧
        marks = [⟨2 * index + 1, (before ++ quote :: value).length⟩,
          ⟨2 * index, (before ++ [quote]).length⟩] := by
  have hhas (value : List Char) :
      (∀ c ∈ value, (Unicode.Ranges.compl (CharSet.single quote)).has c = true) ↔
        quote ∉ value := by
    simp only [CharSet.single, Unicode.Ranges.has_compl_singleton]
    exact ⟨fun h hmem => h quote hmem rfl, fun h c hc heq => h (heq ▸ hc)⟩
  constructor
  · intro h
    obtain ⟨_, _, _, _, rfl, rfl, ⟨rfl, rfl⟩, hrest⟩ := h
    obtain ⟨value, _, _, _, rfl, rfl, hgroup, rfl, rfl⟩ := hrest
    obtain ⟨inner, hvalue, rfl⟩ := (group_iff _ _ _ _ _ _).mp hgroup
    obtain ⟨hmin, hall, rfl⟩ := timesOf_oneOf.mp hvalue
    exact ⟨value, rfl, hmin, (hhas value).mp hall, by simp⟩
  · intro h
    obtain ⟨value, rfl, hmin, hquote, rfl⟩ := h
    refine ⟨[quote], value ++ [quote], [], _, rfl, (List.append_nil _).symm, ⟨rfl, rfl⟩,
      value, [quote], _, [], rfl, rfl, ?_, rfl, rfl⟩
    exact (group_iff _ _ _ _ _ _).mpr
      ⟨[], timesOf_oneOf.mpr ⟨hmin, (hhas value).mpr hquote, rfl⟩,
        by simp⟩

theorem accepts_enclosed {quote : Char} {min index : Nat} :
    (enclosed quote min index).Accepts before piece after ↔
      ∃ value, piece = quote :: (value ++ [quote]) ∧ min ≤ value.length ∧ quote ∉ value := by
  constructor
  · intro h
    obtain ⟨marks, hmarks⟩ := h
    obtain ⟨value, hpiece, hmin, hquote, -⟩ := enclosed_iff.mp hmarks
    exact ⟨value, hpiece, hmin, hquote⟩
  · intro h
    obtain ⟨value, hpiece, hmin, hquote⟩ := h
    exact ⟨_, enclosed_iff.mpr ⟨value, hpiece, hmin, hquote, rfl⟩⟩

end Passage

/-- Trees of characters mean the text of these characters. -/
theorem meanInOrder_plainTrees (cs : List Char) : Tree.MeanInOrder (plainTrees cs) (.text cs) := by
  induction cs with
  | nil => exact Tree.meanInOrder_nil
  | cons c cs ih =>
      rw [← List.singleton_append, Passage.text_append]
      exact (Tree.means_literal c).inOrder.append ih

theorem meanInOrder_enclosedTrees (quote : Char) (min index : Nat) :
    Tree.MeanInOrder (enclosedTrees quote min index) (.enclosed quote min index) := by
  obtain ⟨c, hc⟩ := Unicode.Ranges.exists_has_compl_singleton quote
  have hvalue := Tree.means_capture index (Tree.means_run (Tree.means_allBut quote) hc min)
  have hquote := (Tree.means_literal quote).inOrder
  exact hquote.append (hvalue.inOrder.append hquote)

/-- What is between `^` and `$` has to match the whole text. -/
theorem Denotes.compile_whole {source : List Char} {names : List (Option String)} {d : Nat}
    {R : Passage} (h : Denotes source 0 names d R) (hnames : Distinct names) (hd : d < depthLimit) :
    ∃ e : Expression,
      (∀ limit : Option Nat, compile limit ('^' :: (source ++ ['$'])) =
        if limit.all e.fitsInto then .ok ⟨e.program, names⟩ else .error .tooLarge) ∧
      (∀ text, (search e.program text.toArray).isSome = true ↔ R.Accepts [] text []) ∧
      ∀ text last, search e.program text.toArray = some last → R [] text [] last.marks := by
  have hstart := (denotes_start 0).mono (Nat.zero_le d)
  have hend := (denotes_end names.length).mono (Nat.zero_le d)
  have hwhole : Denotes ('^' :: (source ++ ['$'])) 0 names d
      ((Passage.look .textStart).andThen (R.andThen (.look .textEnd))) := by
    have happend := hstart.append (h.append (by rwa [Nat.zero_add]))
    rwa [List.append_nil, List.nil_append] at happend
  obtain ⟨e, hpassage, hcompile⟩ := hwhole.compile_eq hnames hd
  have hiff {before piece after marks} : e.passage before piece after marks ↔
      before = [] ∧ after = [] ∧ R [] piece [] marks := by
    rw [hpassage]
    constructor
    · intro h
      obtain ⟨_, _, _, _, rfl, rfl, ⟨rfl, rfl, hstart⟩,
        left, _, leftMarks, _, rfl, rfl, hR, rfl, rfl, hend⟩ := h
      have hbefore : before = [] := by simpa [Look.holds] using hstart
      have hafter : after = [] := by simpa [Look.holds] using hend
      subst hbefore hafter
      exact ⟨rfl, rfl, by simpa using hR⟩
    · intro h
      obtain ⟨rfl, rfl, hR⟩ := h
      refine ⟨[], piece, [], marks, rfl, by simp, ⟨rfl, rfl, rfl⟩,
        piece, [], marks, [], by simp, rfl, by simpa using hR, rfl, rfl, rfl⟩
  refine ⟨e, hcompile, fun text => ?_, fun text last hlast => ?_⟩
  · rw [isSome_search_program_iff]
    constructor
    · intro h
      obtain ⟨before, piece, after, marks, rfl, hmatch⟩ := h
      obtain ⟨rfl, rfl, hR⟩ := hiff.mp hmatch
      exact ⟨marks, by simpa using hR⟩
    · intro h
      obtain ⟨marks, hR⟩ := h
      exact ⟨[], text, [], marks, by simp, hiff.mpr ⟨rfl, rfl, hR⟩⟩
  · obtain ⟨before, piece, after, htext, hmatch⟩ := passage_of_search hlast
    obtain ⟨rfl, rfl, hR⟩ := hiff.mp hmatch
    rw [htext]
    simpa using hR

end Stepwise.Regex
