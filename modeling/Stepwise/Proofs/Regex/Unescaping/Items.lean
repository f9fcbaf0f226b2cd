import Stepwise.Proofs.Regex.ClassContent
import Stepwise.Proofs.Regex.Unescaping.Escapes

/-!
# Parts of classes without the escapes of a delimiter

Main statements: the beginning of a class, its named classes and its items are read from a text
without the escapes of a delimiter, too, and the same is left.
-/

namespace Stepwise.Regex

variable {d : Char} {verbose : Bool} {source after : List Char}

/-! The beginning of a class. -/

/-- Reads the beginning of a class behind the sign that negates it. -/
def openItems (verbose negated : Bool) (start : List Char) :
    Except Fault (Bool × List Bracket × List Char) :=
  match leadingHyphens verbose false start with
  | (_, []) => .error .unclosedClass
  | ([], ']' :: rest) =>
      match skipBlanks verbose rest with
      | [] => .error .unclosedClass
      | after => .ok (negated, [.literal ⟨']', false⟩], after)
  | (items, after) => .ok (negated, items, after)

theorem openBracket_caret {rest : List Char} (h : skipBlanks verbose source = '^' :: rest) :
    openBracket verbose source = openItems verbose true (skipBlanks verbose rest) := by
  unfold openBracket
  rw [h]
  rfl

theorem openBracket_plain (h : ¬ ['^'] <+: skipBlanks verbose source) :
    openBracket verbose source = openItems verbose false (skipBlanks verbose source) := by
  unfold openBracket
  split
  rename_i negated start heq
  split at heq
  · rename_i rest hstart
    exact absurd ⟨rest, hstart.symm⟩ h
  · cases heq
    rfl

theorem settled_of_openItems {sign negated : Bool} {items : List Bracket}
    (h : openItems verbose sign (skipBlanks verbose source) = .ok (negated, items, after))
    (hafter : Settled verbose d after) : Settled verbose d source := by
  refine settled_of_backslash fun rest hstart => ?_
  have hhyphens : leadingHyphens verbose false ('\\' :: rest) = ([], '\\' :: rest) := by
    simp [leadingHyphens, isSpace_backslash]
  rw [hstart, openItems, hhyphens] at h
  cases h
  rwa [← hstart, settled_skipBlanks] at hafter

theorem isAlpha_of_ofName? {name : String} {k : NamedClass} (h : NamedClass.ofName? name = some k) :
    ∀ c ∈ name.toList, c.isAlpha = true := by
  rw [← List.all_eq_true]
  unfold NamedClass.ofName? at h
  split at h
  case h_15 => cases h
  all_goals decide

/-- The text of a class written with colons, behind its bracket. -/
def namedText (negated : Bool) (name : String) : List Char :=
  ':' :: (if negated then ['^'] else []) ++ name.toList ++ [':', ']']

theorem isOrdinary_of_mem_namedText {name : String} {k : NamedClass}
    (h : NamedClass.ofName? name = some k) (negated : Bool) :
    ∀ c ∈ namedText negated name, isOrdinary c = true := by
  have hsigns : [':', '^', ']'].all isOrdinary = true := by decide
  intro c hc
  by_cases halpha : c.isAlpha = true
  · exact isOrdinary_of_isAlpha halpha
  · refine List.all_eq_true.mp hsigns c ?_
    have hname : c ∉ name.toList := fun hmem => halpha (isAlpha_of_ofName? h c hmem)
    cases negated <;> simp [namedText, hname] at hc ⊢ <;> tauto

theorem namedClass?_eq_some_iff {item : Bracket} :
    namedClass? source = some (item, after) ↔ ∃ negated name k, NamedClass.ofName? name = some k ∧
      item = .named negated k ∧ source = namedText negated name ++ after := by
  constructor
  · intro h
    unfold namedClass? at h
    split at h
    · rename_i rest
      split at h
      rename_i negated start hstart
      split at h
      · rename_i left heq
        obtain ⟨k, hk, heq'⟩ := Option.map_eq_some_iff.mp h
        cases heq'
        refine ⟨negated, _, k, hk, rfl, ?_⟩
        have hrest : rest = (if negated then ['^'] else []) ++ start := by
          split at hstart <;> cases hstart <;> rfl
        have hsplit := List.takeWhile_append_dropWhile (p := (· ≠ ':')) (l := start)
        rw [heq] at hsplit
        rw [hrest]
        conv_lhs => rw [← hsplit]
        simp [namedText]
      · cases h
    · cases h
  · rintro ⟨negated, name, k, hk, rfl, rfl⟩
    have hname : ∀ c ∈ name.toList, decide (c ≠ ':') = true := by
      intro c hc
      have halpha := isAlpha_of_ofName? hk c hc
      rw [decide_eq_true_iff]
      rintro rfl
      exact absurd halpha (by decide)
    have htake : (name.toList ++ ':' :: ']' :: after).takeWhile (· ≠ ':') = name.toList := by
      rw [List.takeWhile_append_of_pos hname]
      simp
    have hdrop : (name.toList ++ ':' :: ']' :: after).dropWhile (· ≠ ':') =
        ':' :: ']' :: after := by
      rw [List.dropWhile_append_of_pos hname]
      simp
    cases negated with
    | true =>
        have htext : namedText true name ++ after =
            ':' :: '^' :: (name.toList ++ ':' :: ']' :: after) := by
          simp [namedText]
        rw [htext, namedClass?]
        simp only [htake, hdrop, String.ofList_toList, hk]
        rfl
    | false =>
        have htext : namedText false name ++ after =
            ':' :: (name.toList ++ ':' :: ']' :: after) := by
          simp [namedText]
        rw [htext, namedClass?]
        · simp only [htake, hdrop, String.ofList_toList, hk]
          rfl
        · intro rest heq
          cases hchars : name.toList with
          | nil =>
              rw [hchars] at heq
              exact absurd (List.cons.inj heq).1 (by decide)
          | cons c chars =>
              rw [hchars] at heq
              have halpha := isAlpha_of_ofName? hk c (hchars ▸ List.mem_cons_self)
              rw [(List.cons.inj heq).1] at halpha
              exact absurd halpha (by decide)

theorem classItem_of_ne {c : Char} (hc : c ≠ '\\') (rest : List Char) :
    classItem verbose (c :: rest) = .ok (.literal ⟨c, false⟩, rest) := by
  unfold classItem
  split
  · rename_i heq
    cases heq
  · rename_i heq
    exact absurd (List.cons.inj heq).1 hc
  · rename_i heq
    cases heq
    rfl

theorem Escape.isClean_of_toBracket {escape : Escape} {item : Bracket}
    (h : escape.toBracket = .ok item) (hitem : item.IsClean) :
    escape.IsClean ∧ ∀ a, escape ≠ .anchor a := by
  cases escape with
  | property negated query =>
      cases h
      exact ⟨hitem, by simp⟩
  | anchor a => cases h
  | _ => exact ⟨trivial, by simp⟩

theorem Escape.isClean_of_toLiteral {escape : Escape} {l : Literal}
    (h : escape.toLiteral = .ok l) : escape.IsClean ∧ ∀ a, escape ≠ .anchor a := by
  cases escape with
  | literal l => exact ⟨trivial, by simp⟩
  | _ => cases h

theorem peekPastBlanks_of_cons {c : Char} {rest : List Char} (hc : c ≠ '#')
    (h : source.dropWhile Unicode.isSpace = c :: rest) : peekPastBlanks true source = some c := by
  simp only [peekPastBlanks, ↓reduceIte, h]

/-- White space in front makes no difference to what comes next. -/
theorem Settled.not_prefix_dropWhile (h : Settled verbose d source) (hv : verbose = true)
    (hsign : d = '#') : ¬ ['\\', '#'] <+: source.dropWhile Unicode.isSpace := by
  rintro ⟨rest, heq⟩
  refine h hv hsign ?_
  rw [← skipBlanks_dropWhile hv, ← heq]
  change _ <+: skipBlanks verbose ('\\' :: '#' :: rest)
  rw [skipBlanks_cons isSpace_backslash (by decide)]
  exact ⟨rest, rfl⟩

section Readers

variable (hd : d ∈ Turnip.delimiters)

include hd

theorem peekPastBlanks_unescape {c : Char} (hslash : c ≠ '\\') (hc : c ∉ Turnip.delimiters)
    (h : verbose = true → d = '#' → ¬ ['\\', '#'] <+: source.dropWhile Unicode.isSpace) :
    peekPastBlanks verbose (unescape [d] source) = some c ↔
      peekPastBlanks verbose source = some c := by
  have hhead : ∀ text, (unescape [d] text).head? = some c ↔ text.head? = some c := fun text =>
    head?_unescape_iff hslash (not_mem_singleton hd hc)
  cases verbose with
  | false => exact hhead source
  | true =>
      have hdrop := dropWhile_isSpace_unescape hd source
      cases hstart : source.dropWhile Unicode.isSpace with
      | nil =>
          rw [hstart] at hdrop
          simp only [peekPastBlanks, ↓reduceIte, hdrop, hstart]
          exact hhead source
      | cons b rest =>
          by_cases hsign : b = '#'
          · subst hsign
            rw [hstart, unescape_cons (by decide)] at hdrop
            simp only [peekPastBlanks, ↓reduceIte, hdrop, hstart, dropWhile_isSpace_unescape hd,
              Option.or_eq_some_iff, hhead, List.head?_eq_none_iff, unescape_eq_nil_iff]
          · obtain ⟨e, left, he, heb⟩ := exists_unescape_cons [d] b rest
            rw [hstart, he] at hdrop
            rcases heb with rfl | ⟨rfl, hed, hpair⟩
            · rw [peekPastBlanks_of_cons hsign hdrop, peekPastBlanks_of_cons hsign hstart]
            · rw [List.mem_singleton] at hed
              subst hed
              have hmeant : e ≠ '#' := by
                rintro rfl
                exact h rfl rfl (by rwa [hstart])
              rw [peekPastBlanks_of_cons hmeant hdrop, peekPastBlanks_of_cons hsign hstart]
              simp [Ne.symm hslash, Ne.symm (ne_of_mem_delimiters hd hc)]

theorem leadingHyphens_unescape {items : List Bracket}
    (h : leadingHyphens verbose false source = (items, after)) (hafter : Settled verbose d after) :
    leadingHyphens verbose false (unescape [d] source) = (items, unescape [d] after) := by
  rw [leadingHyphens_eq] at h ⊢
  cases h
  have hslash : '\\' ∉ (spanApart (· = '-') verbose false source).1 := fun hmem =>
    absurd (forall_of_spanApart rfl _ hmem) (by decide)
  have hhyphen : decide (d = '-') = true → decide ('\\' = '-') = true := by
    simp [Ne.symm (ne_of_mem_delimiters hd (by decide : '-' ∉ Turnip.delimiters))]
  rw [spanApart_unescape hd hhyphen hslash rfl hafter]

theorem openItems_unescape {sign negated : Bool} {items : List Bracket}
    (h : openItems verbose sign source = .ok (negated, items, after))
    (hafter : Settled verbose d after) :
    openItems verbose sign (unescape [d] source) = .ok (negated, items, unescape [d] after) := by
  unfold openItems at h
  split at h
  · cases h
  · rename_i rest heq
    split at h
    · cases h
    · rename_i hne
      cases h
      have hrest : Settled verbose d rest := settled_skipBlanks.mp hafter
      have hbracket : Settled verbose d (']' :: rest) :=
        settled_of_cons (by decide) (skipBlanks_cons (by decide) (by decide) rest)
      rw [openItems, leadingHyphens_unescape hd heq hbracket, unescape_cons (by decide)]
      simp only [skipBlanks_unescape hd hrest]
      split
      · rename_i hnil
        exact absurd (unescape_eq_nil_iff.mp hnil) hne
      · rfl
  · rename_i hne hbracket heq
    cases h
    rw [openItems, leadingHyphens_unescape hd heq hafter]
    split
    · rename_i hleft
      exact absurd (unescape_eq_nil_iff.mp (Prod.mk.inj hleft).2) hne
    · rename_i hleft
      obtain ⟨hitems, hleft⟩ := Prod.mk.inj hleft
      obtain ⟨written, hleft, -⟩ := exists_of_unescape_eq_cons hd (by decide) hleft
      exact absurd hleft (hbracket written hitems)
    · rename_i hleft
      cases hleft
      rfl

theorem openBracket_unescape {negated : Bool} {items : List Bracket}
    (h : openBracket verbose source = .ok (negated, items, after))
    (hafter : Settled verbose d after) :
    openBracket verbose (unescape [d] source) = .ok (negated, items, unescape [d] after) := by
  by_cases hcaret : ['^'] <+: skipBlanks verbose source
  · obtain ⟨rest, heq⟩ := hcaret
    rw [openBracket_caret heq.symm] at h
    rw [openBracket_caret (skipBlanks_unescape_cons hd (by decide) heq.symm),
      skipBlanks_unescape hd (settled_of_openItems h hafter)]
    exact openItems_unescape hd h hafter
  · rw [openBracket_plain hcaret] at h
    have hsettled := settled_of_openItems h hafter
    have hfront := not_prefix_unescape hd (by decide) hcaret
    rw [← skipBlanks_unescape hd hsettled] at hfront
    rw [openBracket_plain hfront, skipBlanks_unescape hd hsettled]
    exact openItems_unescape hd h hafter

theorem namedClass?_unescape (source : List Char) :
    namedClass? (unescape [d] source) =
      (namedClass? source).map fun (item, after) => (item, unescape [d] after) := by
  apply Option.ext
  rintro ⟨item, rest⟩
  rw [Option.map_eq_some_iff]
  constructor
  · intro h
    obtain ⟨negated, name, k, hk, rfl, heq⟩ := namedClass?_eq_some_iff.mp h
    have htext c hc := isOrdinary_iff.mp (isOrdinary_of_mem_namedText hk negated c hc)
    obtain ⟨written, hsource, rfl⟩ := (unescape_eq_append_iff (fun hmem => (htext _ hmem).1 rfl)
      fun c hc => not_mem_singleton hd (htext c hc).2).mp heq
    exact ⟨_, namedClass?_eq_some_iff.mpr ⟨negated, name, k, hk, rfl, hsource⟩, rfl⟩
  · rintro ⟨⟨item, after⟩, h, heq⟩
    cases heq
    obtain ⟨negated, name, k, hk, rfl, rfl⟩ := namedClass?_eq_some_iff.mp h
    have htext c hc := isOrdinary_iff.mp (isOrdinary_of_mem_namedText hk negated c hc)
    exact namedClass?_eq_some_iff.mpr ⟨negated, name, k, hk, rfl,
      unescape_append (fun hmem => (htext _ hmem).1 rfl) after⟩

/-! Items of a class. -/

theorem classItem_unescape {escape : Escape} (hclean : escape.IsClean)
    (hanchor : ∀ a, escape ≠ .anchor a)
    (h : classItem verbose source = .ok (escape, after)) (hafter : Settled verbose d after) :
    classItem verbose (unescape [d] source) = .ok (escape, unescape [d] after) := by
  unfold classItem at h
  split at h
  · cases h
  · rename_i rest
    cases rest with
    | nil => cases h
    | cons c rest =>
        rw [unescape_pair]
        split
        · rename_i hc
          rw [List.mem_singleton] at hc
          subst hc
          rw [Escape.read_delimiter hd] at h
          cases h
          exact classItem_of_ne (Ne.symm (ne_of_mem_delimiters hd (by decide))) _
        · exact Escape.read_unescape hd hclean h hafter fun edge _ hedge _ =>
            absurd hedge (hanchor (.edge edge))
  · rename_i c rest hslash
    cases h
    have hc : c ≠ '\\' := hslash
    rw [unescape_cons hc]
    exact classItem_of_ne hc _

theorem classRange_unescape {item : Bracket} (hitem : item.Bears verbose d)
    (h : classRange verbose source = .ok (item, after)) (hafter : Settled verbose d after) :
    classRange verbose (unescape [d] source) = .ok (item, unescape [d] after) := by
  rw [classRange_eq_ok_iff] at h ⊢
  cases h with
  | @alone first left after item front behind nonempty apart set =>
      obtain ⟨hclean, hanchor⟩ := Escape.isClean_of_toBracket set hitem.clean
      have hleft : Settled verbose d left := by
        rwa [← settled_skipBlanks, behind]
      refine .alone (classItem_unescape hd hclean hanchor front hleft) ?_ ?_ ?_ set
      · rw [skipBlanks_unescape hd hleft, behind]
      · exact fun hnil => nonempty (unescape_eq_nil_iff.mp hnil)
      · exact not_prefix_unescape hd (by decide) apart
  | @hyphen first left rest item front behind peek set =>
      obtain ⟨hclean, hanchor⟩ := Escape.isClean_of_toBracket set hitem.clean
      have hleft : Settled verbose d left := settled_of_cons (by decide) behind
      rw [unescape_cons (by decide)]
      refine .hyphen (classItem_unescape hd hclean hanchor front hleft) ?_ ?_ set
      · exact skipBlanks_unescape_cons hd (by decide) behind
      · have hrest : verbose = true → d = '#' →
            ¬ ['\\', '#'] <+: rest.dropWhile Unicode.isSpace := by
          rintro rfl - ⟨comment, heq⟩
          rw [peekPastBlanks_of_cons (by decide) heq.symm] at peek
          exact absurd peek (by decide)
        rwa [peekPastBlanks_unescape hd (by decide) (by decide) hrest,
          peekPastBlanks_unescape hd (by decide) (by decide) hrest]
  | @range first last left rest after low high front behind peek back isLow isHigh ascending =>
      obtain ⟨hfirst, hfirst'⟩ := Escape.isClean_of_toLiteral isLow
      obtain ⟨hlast, hlast'⟩ := Escape.isClean_of_toLiteral isHigh
      have hleft : Settled verbose d left := settled_of_cons (by decide) behind
      have hrest : Settled verbose d rest := by
        rintro hv rfl ⟨comment, heq⟩
        rw [← heq] at back
        change Escape.read verbose ('#' :: comment) = _ at back
        rw [Escape.read_delimiter hd] at back
        cases back
        cases isHigh
        exact absurd (hitem.lacks hv rfl) (by simp [Bracket.lacks])
      have hfront := hrest.not_prefix_dropWhile
      refine .range (classItem_unescape hd hfirst hfirst' front hleft)
        (skipBlanks_unescape_cons hd (by decide) behind) ?_ ?_ isLow isHigh ascending
      · rwa [peekPastBlanks_unescape hd (by decide) (by decide) hfront,
          peekPastBlanks_unescape hd (by decide) (by decide) hfront]
      · rw [skipBlanks_unescape hd hrest]
        exact classItem_unescape hd hlast hlast' back hafter

end Readers

end Stepwise.Regex
