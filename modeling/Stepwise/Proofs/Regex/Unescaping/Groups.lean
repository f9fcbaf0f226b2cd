import Stepwise.Proofs.Regex.Progress
import Stepwise.Proofs.Regex.Unescaping.Blanks

/-!
# Groups and repetitions without the escapes of a delimiter

Neither has a backslash in it. Main statements: the beginning of a group and a counted repetition
are read from a text without the escapes of a delimiter, too, and the same is left.
-/

namespace Stepwise.Regex

variable {d : Char} {verbose : Bool} {source after : List Char}

/-! Groups. -/

theorem isNameStart_backslash : isNameStart '\\' = false := by
  rw [isNameStart, Unicode.isAlphabetic_backslash]
  rfl

theorem isNameCharacter_backslash : isNameCharacter '\\' = false := by
  rw [isNameCharacter, Unicode.isAlphanumeric_backslash]
  rfl

theorem readGroupName_unescape {name : String} (h : readGroupName source = .ok (name, after)) :
    readGroupName (unescape [d] source) = .ok (name, unescape [d] after) := by
  unfold readGroupName at h
  split at h
  · rename_i first others c rest htake hdrop
    split at h
    · rename_i hname
      cases h
      rw [Bool.and_eq_true, List.all_eq_true] at hname
      have hslash : '\\' ∉ first :: others := by
        rw [List.mem_cons, not_or]
        constructor
        · rintro rfl
          exact absurd hname.1 (by simp [isNameStart_backslash])
        · intro hmem
          exact absurd (hname.2 '\\' hmem) (by simp [isNameCharacter_backslash])
      have hangle : c = '>' := by
        have hhead := List.head?_dropWhile_not (· ≠ '>') source
        rw [hdrop] at hhead
        simpa using hhead
      subst hangle
      obtain ⟨htake, hdrop⟩ := span_unescape [d] htake hdrop hslash (by decide)
      have hall : (isNameStart first && others.all isNameCharacter) = true := by
        rw [Bool.and_eq_true, List.all_eq_true]
        exact hname
      simp only [readGroupName, htake, hdrop, hall, ↓reduceIte]
    · cases h
  · cases h

theorem backslash_not_mem_of_readFlags {change result : FlagChange} {negated : Bool}
    {text : List Char} (h : readFlags change negated text = .ok result) : '\\' ∉ text := by
  fun_induction readFlags change negated text with
  | _ => grind

theorem readGroupFlags_unescape {l : Lexeme} (h : readGroupFlags source = .ok (l, after)) :
    readGroupFlags (unescape [d] source) = .ok (l, unescape [d] after) := by
  unfold readGroupFlags at h ⊢
  extract_lets at h ⊢
  split at h
  · rename_i hdrop
    obtain ⟨change, hchange, heq⟩ := bind_eq_ok.mp h
    cases heq
    obtain ⟨htake, hdrop⟩ := span_unescape [d] rfl hdrop
      (backslash_not_mem_of_readFlags hchange) (by decide)
    rw [htake, hdrop]
    simp only [hchange]
    rfl
  · cases h
  · rename_i hdrop hnil
    obtain ⟨change, hchange, heq⟩ := bind_eq_ok.mp h
    cases heq
    obtain ⟨htake, hdrop⟩ := span_unescape [d] rfl hdrop
      (backslash_not_mem_of_readFlags hchange) (by decide)
    rw [htake, hdrop]
    simp only [hchange]
    rfl
  · cases h

theorem readGroup_named {rest : List Char} (hahead : ¬ ['='] <+: rest)
    (hbehind : ¬ ['!'] <+: rest) :
    readGroup false ('?' :: '<' :: rest) =
      (readGroupName rest).map fun (name, after) => (.openGroup (.capture (some name)), after) := by
  unfold readGroup
  rw [skipBlanks_false]
  split <;> grind

theorem readGroup_flags {rest : List Char}
    (h : ∀ front ∈ [['='], ['!'], ['<'], ['P', '<']], ¬ front <+: rest) :
    readGroup false ('?' :: rest) = readGroupFlags rest := by
  unfold readGroup
  rw [skipBlanks_false]
  split <;> simp_all

theorem readGroup_capture (h : ¬ ['?'] <+: source) :
    readGroup false source = .ok (.openGroup (.capture none), source) := by
  unfold readGroup
  rw [skipBlanks_false]
  split <;> simp_all

/-- What stands behind a group that is not remembered is read with other flags. -/
theorem settled_of_readGroup {l : Lexeme} (h : readGroup verbose source = .ok (l, after))
    (hafter : l = .openGroup (.capture none) → Settled verbose d after) :
    Settled verbose d source := by
  change readGroup false (skipBlanks verbose source) = _ at h
  refine settled_of_backslash fun rest hstart => ?_
  rw [hstart, readGroup_capture (by simp)] at h
  cases h
  have hrest := hafter rfl
  rwa [← hstart, settled_skipBlanks] at hrest

section Readers

variable (hd : d ∈ Turnip.delimiters)

include hd

theorem readGroup_unescape {l : Lexeme} (h : readGroup verbose source = .ok (l, after))
    (hafter : l = .openGroup (.capture none) → Settled verbose d after) :
    readGroup verbose (unescape [d] source) = .ok (l, unescape [d] after) := by
  have hsettled := settled_of_readGroup h hafter
  change readGroup false (skipBlanks verbose _) = _ at h ⊢
  rw [skipBlanks_unescape hd hsettled]
  generalize skipBlanks verbose source = start at h ⊢
  unfold readGroup at h
  rw [skipBlanks_false] at h
  split at h
  · cases h
  · cases h
  · cases h
  · cases h
  · rename_i rest
    rw [unescape_cons (by decide), unescape_cons (by decide), unescape_cons (by decide)]
    exact map_eq_ok_of (f := fun name => Lexeme.openGroup (.capture (some name))) h
      fun name hname => readGroupName_unescape hname
  · rename_i rest hahead hbehind
    rw [unescape_cons (by decide), unescape_cons (by decide),
      readGroup_named (not_prefix_unescape hd (by decide) ?_)
        (not_prefix_unescape hd (by decide) ?_)]
    · exact map_eq_ok_of (f := fun name => Lexeme.openGroup (.capture (some name))) h
        fun name hname => readGroupName_unescape hname
    · rintro ⟨tail, rfl⟩
      exact hahead tail rfl
    · rintro ⟨tail, rfl⟩
      exact hbehind tail rfl
  · rename_i rest hahead hbehind _ _ hname hangle
    have hnone : ∀ front ∈ [['='], ['!'], ['<'], ['P', '<']], ¬ front <+: rest := by
      simp only [List.mem_cons, List.not_mem_nil, or_false]
      rintro front (rfl | rfl | rfl | rfl) ⟨tail, rfl⟩
      · exact hahead tail rfl
      · exact hbehind tail rfl
      · exact hangle tail rfl
      · exact hname tail rfl
    have hordinary : [['='], ['!'], ['<'], ['P', '<']].all (·.all isOrdinary) = true := by decide
    rw [unescape_cons (by decide), readGroup_flags fun front hfront =>
      not_prefix_unescape hd (List.all_eq_true.mp hordinary front hfront) (hnone front hfront)]
    exact readGroupFlags_unescape h
  · rename_i hquestion
    cases h
    refine readGroup_capture (not_prefix_unescape hd (by decide) ?_)
    rintro ⟨tail, rfl⟩
    exact hquestion tail rfl

/-! Repetitions. -/

theorem spanDigits_unescape {digits : List Char}
    (h : spanDigits verbose false source = (digits, after)) (hafter : Settled verbose d after) :
    spanDigits verbose false (unescape [d] source) = (digits, unescape [d] after) := by
  rw [spanDigits_eq] at h ⊢
  have hslash : '\\' ∉ digits := fun hmem =>
    absurd (forall_of_spanApart h _ hmem) (by decide)
  have hdigit : d.isDigit = true → Char.isDigit '\\' = true := by simp [isDigit_delimiter hd]
  exact spanApart_unescape hd hdigit hslash h hafter

theorem readCount_unescape {n : Nat} (h : readCount verbose source = .ok (n, after))
    (hafter : Settled verbose d after) :
    readCount verbose (unescape [d] source) = .ok (n, unescape [d] after) := by
  unfold readCount at h ⊢
  rw [dropWhile_isSpace_unescape hd]
  split at h
  rename_i digits left hspan
  simp only at h
  split at h
  · cases h
  · rename_i hcount
    cases h
    have hleft : Settled verbose d left := fun hv hsign hprefix =>
      hafter hv hsign (by rwa [skipBlanks_dropWhile hv])
    rw [spanDigits_unescape hd hspan hleft]
    simp only
    rw [if_neg hcount, dropWhile_isSpace_unescape hd]

omit hd in
/-- A count begins with a digit. -/
theorem settled_of_readCount {n : Nat}
    (h : readCount verbose (skipBlanks verbose source) = .ok (n, after)) :
    Settled verbose d source := by
  refine settled_of_backslash fun rest hstart => ?_
  rw [hstart, readCount, List.dropWhile_cons_of_neg (by simp [isSpace_backslash])] at h
  simp [spanDigits, isSpace_backslash, Char.isDigit] at h

theorem readLazy_unescape (source : List Char) :
    readLazy (unescape [d] source) = ((readLazy source).1, unescape [d] (readLazy source).2) := by
  unfold readLazy
  split
  · rename_i rest heq
    obtain ⟨written, rfl, rfl⟩ :=
      exists_of_unescape_eq_cons hd (by decide) heq
    rfl
  · rename_i hquestion
    split
    · rename_i rest
      exact absurd (unescape_cons (by decide) rest) (hquestion _)
    · rfl

omit hd in
theorem settled_of_readLazy (h : Settled verbose d (readLazy (skipBlanks verbose source)).2) :
    Settled verbose d source := by
  refine settled_of_backslash fun rest hstart => ?_
  rw [hstart] at h
  rwa [← settled_skipBlanks, hstart]

omit hd in
theorem settled_of_endRepetition {min : Nat} {max : Option Nat} {l : Lexeme}
    (h : endRepetition verbose min max source = .ok (l, after)) : Settled verbose d source := by
  unfold endRepetition at h
  split at h
  · exact settled_of_cons (by decide) (skipBlanks_cons (by decide) (by decide) _)
  · cases h

omit hd in
theorem settled_of_readMaximum {min : Nat} {max : Option Nat}
    (h : readMaximum verbose min source = .ok (max, after)) (hafter : Settled verbose d after) :
    Settled verbose d source := by
  unfold readMaximum at h
  split at h
  · exact settled_of_cons (by decide) (skipBlanks_cons (by decide) (by decide) _)
  · cases h
    exact hafter

theorem readMaximum_unescape {min : Nat} {max : Option Nat}
    (h : readMaximum verbose min source = .ok (max, after)) (hafter : Settled verbose d after) :
    readMaximum verbose min (unescape [d] source) = .ok (max, unescape [d] after) := by
  unfold readMaximum at h
  split at h
  · rename_i rest
    rw [unescape_cons (by decide), readMaximum]
    split at h
    · rename_i left heq
      cases h
      rw [skipBlanks_unescape_cons hd (by decide) heq, unescape_cons (by decide)]
      rfl
    · rename_i hbrace
      obtain ⟨⟨count, left⟩, hcount, heq⟩ := map_eq_ok.mp h
      cases heq
      rw [skipBlanks_unescape hd (settled_of_readCount hcount)]
      split
      · rename_i left heq
        obtain ⟨written, heq, -⟩ := exists_of_unescape_eq_cons hd (by decide) heq
        exact absurd heq (hbrace written)
      · rw [readCount_unescape hd hcount hafter]
        rfl
  · rename_i hcomma
    cases h
    unfold readMaximum
    split
    · rename_i rest heq
      obtain ⟨written, heq, -⟩ := exists_of_unescape_eq_cons hd (by decide) heq
      exact absurd heq (hcomma written)
    · rfl

theorem endRepetition_unescape {min : Nat} {max : Option Nat} {l : Lexeme}
    (h : endRepetition verbose min max source = .ok (l, after)) (hafter : Settled verbose d after) :
    endRepetition verbose min max (unescape [d] source) = .ok (l, unescape [d] after) := by
  unfold endRepetition at h
  split at h
  · rename_i rest
    rw [unescape_cons (by decide), endRepetition]
    by_cases hmax : max.any (· < min)
    · rw [if_pos hmax] at h
      cases h
    · rw [if_neg hmax] at h ⊢
      cases h
      have hsettled := settled_of_readLazy hafter
      rw [skipBlanks_unescape hd hsettled]
      simp only [readLazy_unescape hd]
      rfl
  · cases h

theorem readRepetition_unescape {l : Lexeme}
    (h : readRepetition verbose source = .ok (l, after)) (hafter : Settled verbose d after) :
    readRepetition verbose (unescape [d] source) = .ok (l, unescape [d] after) := by
  rw [readRepetition_eq] at h ⊢
  obtain ⟨⟨min, left⟩, hmin, h⟩ := bind_eq_ok.mp h
  obtain ⟨⟨max, behind⟩, hmax, h⟩ := bind_eq_ok.mp h
  have hbehind : Settled verbose d behind := settled_of_endRepetition h
  have hleft := settled_of_readMaximum hmax hbehind
  rw [skipBlanks_unescape hd (settled_of_readCount hmin)]
  refine bind_eq_ok.mpr ⟨_, readCount_unescape hd hmin hleft, ?_⟩
  refine bind_eq_ok.mpr ⟨_, readMaximum_unescape hd hmax hbehind, ?_⟩
  exact endRepetition_unescape hd h hafter

end Readers

end Stepwise.Regex
