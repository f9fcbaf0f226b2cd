import Stepwise.Proofs.Regex.Blanks

/-!
# Every part takes a character

What is left behind a lexeme, or behind a part of a class, is shorter than the text it was
read from. So it makes no difference that the readers ask for it before they go on.
-/

namespace Stepwise.Regex

section Steps

variable {α β : Type}

/-- Two steps succeed if the second one succeeds with the result of the first one. -/
theorem bind_eq_ok {x : Except Fault α} {f : α → Except Fault β} {b : β} :
    (x >>= f) = .ok b ↔ ∃ a, x = .ok a ∧ f a = .ok b := by
  cases x with
  | ok a => simp [bind, Except.bind]
  | error fault => simp [bind, Except.bind]

theorem map_eq_ok {x : Except Fault α} {f : α → β} {b : β} :
    x.map f = .ok b ↔ ∃ a, x = .ok a ∧ f a = b := by
  cases x with
  | ok a => simp [Except.map]
  | error fault => simp [Except.map]

/-- What is left does not change if what is read is wrapped. -/
theorem exists_of_map_eq_ok {x : Except Fault (α × List Char)} {f : α → β} {b : β}
    {after : List Char} (h : x.map (fun p => (f p.1, p.2)) = .ok (b, after)) :
    ∃ a, x = .ok (a, after) ∧ f a = b := by
  obtain ⟨⟨a, rest⟩, hx, heq⟩ := map_eq_ok.mp h
  cases heq
  exact ⟨a, hx, rfl⟩

/-- What is read from one text is read from another one also if it is wrapped. -/
theorem map_eq_ok_of {x y : Except Fault (α × List Char)} {f : α → β} {b : β}
    {after left : List Char} (h : x.map (fun p => (f p.1, p.2)) = .ok (b, after))
    (hread : ∀ a, x = .ok (a, after) → y = .ok (a, left)) :
    y.map (fun p => (f p.1, p.2)) = .ok (b, left) := by
  obtain ⟨a, hx, rfl⟩ := exists_of_map_eq_ok h
  exact map_eq_ok.mpr ⟨_, hread a hx, rfl⟩

end Steps

variable {verbose inComment : Bool} {source after : List Char}

theorem skipBlanks_length_le (verbose : Bool) (source : List Char) :
    (skipBlanks verbose source).length ≤ source.length := by
  unfold skipBlanks
  split
  · exact dropBlanks_length_le false source
  · exact Nat.le_refl _

theorem untilBrace_length_lt {text : List Char}
    (h : untilBrace verbose inComment source = some (text, after)) :
    after.length < source.length := by
  have hbrace := spanApart_length_le (untilBrace_eq_some_iff.mp h)
  rw [List.length_cons] at hbrace
  omega

theorem fixedDigits_length_le {n : Nat} {digits : List Char}
    (h : fixedDigits verbose n source = .ok (digits, after)) :
    after.length ≤ source.length := by
  induction n generalizing source digits with
  | zero =>
      rw [fixedDigits] at h
      grind
  | succ n ih =>
      cases source with
      | nil => simp [fixedDigits] at h
      | cons c rest =>
          rw [fixedDigits, bind_eq_ok] at h
          obtain ⟨⟨digits, left⟩, hdigits, heq⟩ := h
          cases heq
          have hblanks := skipBlanks_length_le verbose rest
          have hleft := ih hdigits
          rw [List.length_cons]
          omega

theorem codePointEscape_length_le {width : Nat} {l : Literal}
    (h : codePointEscape verbose width source = .ok (l, after)) :
    after.length ≤ source.length := by
  have hblanks := skipBlanks_length_le verbose source
  unfold codePointEscape at h
  split at h
  · rename_i rest heq
    rw [heq, List.length_cons] at hblanks
    split at h
    · rename_i digits left hbrace
      have hleft := untilBrace_length_lt hbrace
      rw [bind_eq_ok] at h
      obtain ⟨c, -, heq⟩ := h
      cases heq
      omega
    · cases h
  · rw [bind_eq_ok] at h
    obtain ⟨⟨digits, left⟩, hdigits, h⟩ := h
    have hleft := fixedDigits_length_le hdigits
    rw [bind_eq_ok] at h
    obtain ⟨c, -, heq⟩ := h
    cases heq
    omega

theorem propertyEscape_length_le {query : PropertyQuery}
    (h : propertyEscape verbose source = .ok (query, after)) :
    after.length ≤ source.length := by
  have hblanks := skipBlanks_length_le verbose source
  unfold propertyEscape at h
  split at h
  · cases h
  · rename_i rest heq
    split at h
    · cases h
    · rename_i text left hbrace
      cases h
      have hleft := untilBrace_length_lt hbrace
      rw [heq, List.length_cons] at hblanks
      omega
  · cases h
  · rename_i c rest hother hslash heq
    cases h
    rw [heq, List.length_cons] at hblanks
    omega

theorem boundaryName_length_le {edge : WordEdge}
    (h : boundaryName verbose source = .ok (edge, after)) :
    after.length ≤ source.length := by
  unfold boundaryName at h
  split at h
  · rename_i rest
    split at h
    · cases h
    · split at h
      · split at h
        · cases h
        · rename_i text left hbrace
          have hleft := untilBrace_length_lt hbrace
          rw [List.length_cons]
          split at h <;> cases h <;> omega
      · cases h
        exact Nat.le_refl _
  · cases h
    exact Nat.le_refl _

theorem Escape.read_length_lt {escape : Escape}
    (h : Escape.read verbose source = .ok (escape, after)) :
    after.length < source.length := by
  unfold Escape.read at h
  split at h
  · cases h
  rename_i c rest
  rw [List.length_cons, Nat.lt_succ_iff]
  split at h
  · cases h
    exact Nat.le_refl _
  split at h
  · cases h
  split at h
  · cases h
    exact Nat.le_refl _
  split at h
  · obtain ⟨l, hread, -⟩ := exists_of_map_eq_ok h
    exact codePointEscape_length_le hread
  · obtain ⟨l, hread, -⟩ := exists_of_map_eq_ok h
    exact codePointEscape_length_le hread
  · obtain ⟨l, hread, -⟩ := exists_of_map_eq_ok h
    exact codePointEscape_length_le hread
  · obtain ⟨query, hread, -⟩ := exists_of_map_eq_ok h
    exact propertyEscape_length_le hread
  · obtain ⟨query, hread, -⟩ := exists_of_map_eq_ok h
    exact propertyEscape_length_le hread
  · obtain ⟨⟨edge, left⟩, hread, heq⟩ := map_eq_ok.mp h
    cases heq
    exact boundaryName_length_le hread
  · cases h

/-! Classes. -/

theorem namedClass?_length_lt {item : Bracket}
    (h : namedClass? source = some (item, after)) : after.length < source.length := by
  unfold namedClass? at h
  split at h
  · rename_i rest
    split at h
    rename_i negated start hstart
    have hrest : start.length ≤ rest.length := by
      split at hstart <;> cases hstart <;> simp
    split at h
    · rename_i left heq
      obtain ⟨k, -, hk⟩ := Option.map_eq_some_iff.mp h
      cases hk
      have hdrop := (List.dropWhile_sublist (· ≠ ':') (l := start)).length_le
      rw [heq, List.length_cons, List.length_cons] at hdrop
      rw [List.length_cons]
      omega
    · cases h
  · cases h

theorem classItem_length_lt {escape : Escape}
    (h : classItem verbose source = .ok (escape, after)) : after.length < source.length := by
  unfold classItem at h
  split at h
  · cases h
  · rename_i rest
    have hleft := Escape.read_length_lt h
    rw [List.length_cons]
    omega
  · cases h
    simp

/-- How an item of a class is read: alone in front of something else, alone in front of a hyphen
that makes no range, or as a range. -/
inductive ReadsItem (verbose : Bool) (source : List Char) : Bracket → List Char → Prop
  | alone {first : Escape} {left after : List Char} {item : Bracket}
      (front : classItem verbose source = .ok (first, left))
      (behind : skipBlanks verbose left = after) (nonempty : after ≠ [])
      (apart : ¬ ['-'] <+: after) (set : first.toBracket = .ok item) :
      ReadsItem verbose source item after
  | hyphen {first : Escape} {left rest : List Char} {item : Bracket}
      (front : classItem verbose source = .ok (first, left))
      (behind : skipBlanks verbose left = '-' :: rest)
      (peek : peekPastBlanks verbose rest = some ']' ∨ peekPastBlanks verbose rest = some '-')
      (set : first.toBracket = .ok item) : ReadsItem verbose source item ('-' :: rest)
  | range {first last : Escape} {left rest after : List Char} {low high : Literal}
      (front : classItem verbose source = .ok (first, left))
      (behind : skipBlanks verbose left = '-' :: rest)
      (peek : ¬(peekPastBlanks verbose rest = some ']' ∨ peekPastBlanks verbose rest = some '-'))
      (back : classItem verbose (skipBlanks verbose rest) = .ok (last, after))
      (isLow : first.toLiteral = .ok low) (isHigh : last.toLiteral = .ok high)
      (ascending : ¬high.char < low.char) : ReadsItem verbose source (.range low high) after

theorem classRange_eq_ok_iff {item : Bracket} :
    classRange verbose source = .ok (item, after) ↔ ReadsItem verbose source item after := by
  constructor
  · intro h
    rw [classRange, bind_eq_ok] at h
    obtain ⟨⟨first, left⟩, hfirst, h⟩ := h
    simp only at h
    split at h
    · cases h
    · rename_i rest hbehind
      split at h
      · rename_i hpeek
        obtain ⟨set, hset, heq⟩ := bind_eq_ok.mp h
        cases heq
        exact .hyphen hfirst hbehind hpeek hset
      · rename_i hpeek
        obtain ⟨⟨last, behind⟩, hlast, h⟩ := bind_eq_ok.mp h
        obtain ⟨low, hlow, h⟩ := bind_eq_ok.mp h
        obtain ⟨high, hhigh, h⟩ := bind_eq_ok.mp h
        split at h
        · cases h
        · rename_i hascending
          cases h
          exact .range hfirst hbehind hpeek hlast hlow hhigh hascending
    · rename_i hne hhyphen
      obtain ⟨set, hset, heq⟩ := bind_eq_ok.mp h
      cases heq
      refine .alone hfirst rfl hne ?_ hset
      rintro ⟨rest, heq⟩
      exact hhyphen rest heq.symm
  · intro h
    rw [classRange, bind_eq_ok]
    cases h with
    | alone front behind nonempty apart set =>
        refine ⟨_, front, ?_⟩
        simp only [behind]
        split
        · exact absurd rfl nonempty
        · exact absurd ⟨_, rfl⟩ apart
        · rw [set]
          rfl
    | hyphen front behind peek set =>
        refine ⟨_, front, ?_⟩
        simp only [behind]
        rw [if_pos peek, set]
        rfl
    | range front behind peek back isLow isHigh ascending =>
        refine ⟨_, front, ?_⟩
        simp only [behind]
        rw [if_neg peek, back, isLow]
        refine bind_eq_ok.mpr ⟨_, rfl, bind_eq_ok.mpr ⟨_, rfl, bind_eq_ok.mpr ⟨_, isHigh, ?_⟩⟩⟩
        rw [if_neg ascending]
        rfl

theorem classRange_length_lt {item : Bracket}
    (h : classRange verbose source = .ok (item, after)) : after.length < source.length := by
  cases classRange_eq_ok_iff.mp h with
  | @alone first left after item front behind nonempty apart set =>
      have hleft := classItem_length_lt front
      have hblanks := skipBlanks_length_le verbose left
      rw [behind] at hblanks
      omega
  | @hyphen first left rest item front behind peek set =>
      have hleft := classItem_length_lt front
      have hblanks := skipBlanks_length_le verbose left
      rw [behind] at hblanks
      omega
  | @range first last left rest after low high front behind peek back isLow isHigh ascending =>
      have hleft := classItem_length_lt front
      have hblanks := skipBlanks_length_le verbose left
      have hrest := skipBlanks_length_le verbose rest
      have hback := classItem_length_lt back
      rw [behind, List.length_cons] at hblanks
      omega

theorem leadingHyphens_length_le {items : List Bracket}
    (h : leadingHyphens verbose inComment source = (items, after)) :
    after.length ≤ source.length := by
  rw [leadingHyphens_eq] at h
  cases h
  exact spanApart_length_le rfl

theorem openBracket_length_le {negated : Bool} {items : List Bracket}
    (h : openBracket verbose source = .ok (negated, items, after)) :
    after.length ≤ source.length := by
  have hblanks := skipBlanks_length_le verbose source
  unfold openBracket at h
  split at h
  rename_i sign start hstart
  have hrest : start.length ≤ source.length := by
    split at hstart
    · rename_i rest heq
      cases hstart
      have hrest := skipBlanks_length_le verbose rest
      rw [heq, List.length_cons] at hblanks
      omega
    · cases hstart
      exact hblanks
  split at h
  · cases h
  · rename_i rest heq
    have hhyphens := leadingHyphens_length_le heq
    rw [List.length_cons] at hhyphens
    have hbehind := skipBlanks_length_le verbose rest
    split at h
    · cases h
    · cases h
      omega
  · rename_i items left hnil hbracket heq
    cases h
    exact Nat.le_trans (leadingHyphens_length_le heq) hrest

theorem BracketReader.step_length_lt {reader reader' : BracketReader}
    (h : reader.step verbose source = .ok (.more reader' after)) :
    after.length < source.length := by
  unfold BracketReader.step at h
  split at h
  · cases h
  · rename_i rest
    split at h
    · rename_i item left hnamed
      cases h
      have hleft := namedClass?_length_lt hnamed
      rw [List.length_cons]
      omega
    · obtain ⟨⟨negated, items, left⟩, hopen, heq⟩ := bind_eq_ok.mp h
      cases heq
      have hleft := openBracket_length_le hopen
      rw [List.length_cons]
      omega
  · split at h <;> cases h
    simp
  · cases h
    exact Nat.lt_add_of_pos_right Nat.two_pos
  · cases h
    exact Nat.lt_add_of_pos_right Nat.two_pos
  · cases h
    exact Nat.lt_add_of_pos_right Nat.two_pos
  · obtain ⟨⟨item, left⟩, hrange, heq⟩ := bind_eq_ok.mp h
    cases heq
    exact classRange_length_lt hrange

theorem BracketReader.step_done_length_lt {reader : BracketReader} {negated : Bool}
    {content : Bracket} (h : reader.step verbose source = .ok (.done negated content after)) :
    after.length < source.length := by
  unfold BracketReader.step at h
  split at h
  · cases h
  · split at h
    · cases h
    · obtain ⟨⟨negated, items, left⟩, hopen, heq⟩ := bind_eq_ok.mp h
      cases heq
  · split at h <;> cases h
    simp
  · cases h
  · cases h
  · cases h
  · obtain ⟨⟨item, left⟩, hrange, heq⟩ := bind_eq_ok.mp h
    cases heq

theorem BracketReader.run_length_lt {reader : BracketReader} {negated : Bool}
    {content : Bracket} (h : reader.run verbose source = .ok (negated, content, after)) :
    after.length < source.length := by
  have hblanks := skipBlanks_length_le verbose source
  fun_induction BracketReader.run verbose reader source with
  | case1 => cases h
  | case2 reader source negated content rest hstep =>
      cases h
      have hrest := step_done_length_lt hstep
      omega
  | case3 reader source reader' rest hstep hlt ih =>
      have hrest := ih h (skipBlanks_length_le verbose rest)
      omega
  | case4 => cases h

theorem readBracket_length_lt {negated : Bool} {content : Bracket}
    (h : readBracket verbose source = .ok (negated, content, after)) :
    after.length < source.length := by
  obtain ⟨⟨sign, items, left⟩, hopen, hrun⟩ := bind_eq_ok.mp h
  exact Nat.lt_of_lt_of_le (BracketReader.run_length_lt hrun) (openBracket_length_le hopen)

/-! Groups and repetitions. -/

theorem readGroupName_length_le {name : String}
    (h : readGroupName source = .ok (name, after)) : after.length ≤ source.length := by
  have hdrop := (List.dropWhile_sublist (· ≠ '>') (l := source)).length_le
  unfold readGroupName at h
  split at h
  · rename_i first others c rest htake heq
    rw [heq, List.length_cons] at hdrop
    split at h <;> cases h
    omega
  · cases h

theorem readGroupFlags_length_le {l : Lexeme}
    (h : readGroupFlags source = .ok (l, after)) : after.length ≤ source.length := by
  have hdrop : ∀ p, (source.dropWhile p).length ≤ source.length := fun p =>
    (List.dropWhile_sublist p).length_le
  unfold readGroupFlags at h
  extract_lets isFlag at h
  split at h
  · rename_i rest heq
    obtain ⟨change, -, heq'⟩ := bind_eq_ok.mp h
    cases heq'
    have hrest := hdrop isFlag
    rw [heq, List.length_cons] at hrest
    omega
  · cases h
  · rename_i rest heq hnil
    obtain ⟨change, -, heq'⟩ := bind_eq_ok.mp h
    cases heq'
    have hrest := hdrop isFlag
    rw [heq, List.length_cons] at hrest
    omega
  · cases h

theorem readGroup_length_le {l : Lexeme}
    (h : readGroup verbose source = .ok (l, after)) : after.length ≤ source.length := by
  refine Nat.le_trans ?_ (skipBlanks_length_le verbose source)
  unfold readGroup at h
  split at h
  · cases h
  · cases h
  · cases h
  · cases h
  · rename_i rest heq
    obtain ⟨⟨name, left⟩, hname, heq'⟩ := map_eq_ok.mp h
    cases heq'
    have hleft := readGroupName_length_le hname
    simp only [heq, List.length_cons]
    omega
  · rename_i rest hahead hbehind heq
    obtain ⟨⟨name, left⟩, hname, heq'⟩ := map_eq_ok.mp h
    cases heq'
    have hleft := readGroupName_length_le hname
    simp only [heq, List.length_cons]
    omega
  · have hleft := readGroupFlags_length_le h
    grind
  · cases h
    exact Nat.le_refl _

theorem spanDigits_length_le {digits : List Char}
    (h : spanDigits verbose inComment source = (digits, after)) :
    after.length ≤ source.length := by
  rw [spanDigits_eq] at h
  exact spanApart_length_le h

theorem readCount_length_le {n : Nat} (h : readCount verbose source = .ok (n, after)) :
    after.length ≤ source.length := by
  unfold readCount at h
  split at h
  rename_i digits left hspan
  simp only at h
  split at h
  · cases h
  · cases h
    have hdigits := spanDigits_length_le hspan
    have hfront := (List.dropWhile_sublist Unicode.isSpace (l := source)).length_le
    have hback := (List.dropWhile_sublist Unicode.isSpace (l := left)).length_le
    omega

theorem readLazy_length_le (source : List Char) :
    (readLazy source).2.length ≤ source.length := by
  unfold readLazy
  split
  · simp
  · exact Nat.le_refl _

/-- Reads the largest count of a repetition, which is the smallest one if it stands alone. -/
def readMaximum (verbose : Bool) (min : Nat) : List Char → Except Fault (Option Nat × List Char)
  | ',' :: rest =>
      match skipBlanks verbose rest with
      | '\x7d' :: rest => .ok (none, '\x7d' :: rest)
      | rest => (readCount verbose rest).map fun (max, after) => (some max, after)
  | after => .ok (some min, after)

/-- Reads the end of a repetition with these counts. -/
def endRepetition (verbose : Bool) (min : Nat) (max : Option Nat) :
    List Char → Except Fault (Lexeme × List Char)
  | '\x7d' :: rest => do
      if max.any (· < min) then throw .badCount
      let (isLazy, after) := readLazy (skipBlanks verbose rest)
      return (.repetition min max isLazy, after)
  | _ => throw .badCount

/-- A counted repetition is read in three steps. -/
theorem readRepetition_eq (verbose : Bool) (source : List Char) :
    readRepetition verbose source = (do
      let (min, behind) ← readCount verbose (skipBlanks verbose source)
      let (max, behind) ← readMaximum verbose min behind
      endRepetition verbose min max behind) := by
  unfold readRepetition
  congr 1
  funext ⟨min, behind⟩
  -- What follows is told first, as both sides branch on it.
  by_cases hcomma : ∃ rest, behind = ',' :: rest
  · obtain ⟨rest, rfl⟩ := hcomma
    by_cases hbrace : ∃ left, skipBlanks verbose rest = '\x7d' :: left
    · obtain ⟨left, hleft⟩ := hbrace
      simp only [readMaximum, hleft]
      rfl
    · rw [not_exists] at hbrace
      simp only [readMaximum]
      cases readCount verbose (skipBlanks verbose rest) with
      | error => rfl
      | ok p => rfl
  · rw [not_exists] at hcomma
    simp only [readMaximum]
    rfl

theorem readMaximum_length_le {min : Nat} {max : Option Nat}
    (h : readMaximum verbose min source = .ok (max, after)) : after.length ≤ source.length := by
  unfold readMaximum at h
  split at h
  · rename_i rest
    have hrest := skipBlanks_length_le verbose rest
    rw [List.length_cons]
    split at h
    · rename_i brace heq
      cases h
      rw [heq] at hrest
      omega
    · obtain ⟨⟨max, behind⟩, hcount, heq⟩ := map_eq_ok.mp h
      cases heq
      have hbehind := readCount_length_le hcount
      omega
  · cases h
    exact Nat.le_refl _

theorem endRepetition_length_le {min : Nat} {max : Option Nat} {l : Lexeme}
    (h : endRepetition verbose min max source = .ok (l, after)) :
    after.length ≤ source.length := by
  unfold endRepetition at h
  split at h
  · rename_i rest
    have hrest := skipBlanks_length_le verbose rest
    have hlazy := readLazy_length_le (skipBlanks verbose rest)
    by_cases hmax : max.any (· < min)
    · rw [if_pos hmax] at h
      cases h
    · rw [if_neg hmax] at h
      cases h
      exact Nat.le_succ_of_le (Nat.le_trans hlazy hrest)
  · cases h

theorem readRepetition_length_le {l : Lexeme}
    (h : readRepetition verbose source = .ok (l, after)) : after.length ≤ source.length := by
  rw [readRepetition_eq] at h
  obtain ⟨⟨min, left⟩, hmin, h⟩ := bind_eq_ok.mp h
  obtain ⟨⟨max, behind⟩, hmax, h⟩ := bind_eq_ok.mp h
  calc after.length
    _ ≤ behind.length := endRepetition_length_le h
    _ ≤ left.length := readMaximum_length_le hmax
    _ ≤ (skipBlanks verbose source).length := readCount_length_le hmin
    _ ≤ source.length := skipBlanks_length_le verbose source

theorem Lexeme.read_length_lt {l : Lexeme}
    (h : Lexeme.read verbose source = .ok (l, after)) : after.length < source.length := by
  unfold Lexeme.read at h
  split at h
  · cases h
  · exact Nat.lt_succ_of_le (readGroup_length_le h)
  · cases h
    exact Nat.lt_succ_self _
  · cases h
    exact Nat.lt_succ_self _
  · obtain ⟨⟨negated, content, left⟩, hread, heq⟩ := map_eq_ok.mp h
    cases heq
    exact Nat.lt_succ_of_lt (readBracket_length_lt hread)
  · cases h
    exact Nat.lt_succ_of_le (readLazy_length_le _)
  · cases h
    exact Nat.lt_succ_of_le (readLazy_length_le _)
  · cases h
    exact Nat.lt_succ_of_le (readLazy_length_le _)
  · exact Nat.lt_succ_of_le (readRepetition_length_le h)
  · obtain ⟨⟨escape, left⟩, hread, heq⟩ := map_eq_ok.mp h
    cases heq
    exact Nat.lt_succ_of_lt (Escape.read_length_lt hread)
  · cases h
    exact Nat.lt_succ_self _
  · cases h
    exact Nat.lt_succ_self _
  · cases h
    exact Nat.lt_succ_self _
  · cases h
    exact Nat.lt_succ_self _

end Stepwise.Regex
