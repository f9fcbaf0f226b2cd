import Stepwise.Proofs.Regex.Unescaping.Items

/-!
# Classes without the escapes of a delimiter

Main statement: a class is read in the same way without the escapes of a delimiter, unless two
tildes come together that were none of an operation, or a number sign begins a comment.
-/

namespace Stepwise.Regex

variable {d : Char} {verbose : Bool} {source after : List Char}

/-! What stands in a class that can be unescaped. -/

namespace BracketReader

variable {reader next : BracketReader} {negated : Bool} {content : Bracket}

theorem eq_of_readsItem {c : Char} {left : List Char} {item : Bracket}
    (h : ReadsItem verbose source item after)
    (hfront : classItem verbose source = .ok (.literal ⟨c, false⟩, left)) :
    item = .literal ⟨c, false⟩ ∨ ∃ last, item = .range ⟨c, false⟩ last := by
  cases h with
  | alone front behind nonempty apart set =>
      rw [hfront] at front
      cases front
      cases set
      exact .inl rfl
  | hyphen front behind peek set =>
      rw [hfront] at front
      cases front
      cases set
      exact .inl rfl
  | range front behind peek back isLow isHigh ascending =>
      rw [hfront] at front
      cases front
      cases isLow
      exact .inr ⟨_, rfl⟩

/-- An item that comes next is a part of the content. -/
theorem exists_item_of_run (hne : reader.pending ≠ [])
    (h : reader.run verbose source = .ok (negated, content, after)) {P : Bracket → Prop}
    (hP : Hereditary P) (hcontent : P content) (hsource : skipBlanks verbose source ≠ [])
    (hsigns : ∀ front ∈ signs, ¬ front <+: skipBlanks verbose source) :
    ∃ item left, ReadsItem verbose (skipBlanks verbose source) item left ∧
      (reader.add item).run verbose left = .ok (negated, content, after) ∧
      (reader.add item).Has P := by
  rcases run_cases h with hstep | ⟨next, left, hstep, hrun⟩
  · rw [step_of_no_sign hsource hsigns] at hstep
    obtain ⟨⟨item, left⟩, -, heq⟩ := bind_eq_ok.mp hstep
    cases heq
  · have hleads := leadsTo_of_step hstep
    have hnext := Has.of_run hP (hleads.pending_ne_nil hne) hrun hcontent
    rw [step_of_no_sign hsource hsigns] at hstep
    obtain ⟨⟨item, behind⟩, hitem, heq⟩ := bind_eq_ok.mp hstep
    cases heq
    exact ⟨item, left, classRange_eq_ok_iff.mp hitem, hrun, hnext⟩

theorem settled_of_run (hne : reader.pending ≠ [])
    (h : reader.run verbose source = .ok (negated, content, after))
    (hcontent : content.Bears verbose d) : Settled verbose d source := by
  rintro hv rfl ⟨comment, heq⟩
  change '\\' :: '#' :: comment = _ at heq
  obtain ⟨item, left, hitem, -, hhas⟩ := exists_item_of_run hne h Bracket.hereditary_bears hcontent
    (by rw [← heq]; exact List.cons_ne_nil _ _) (by rw [← heq]; simp [signs])
  have hlacks := (Has.of_add Bracket.hereditary_bears hhas).2.lacks hv rfl
  have hfront : classItem verbose (skipBlanks verbose source) =
      .ok (.literal ⟨'#', false⟩, comment) := by
    have hread : Escape.read verbose ('#' :: comment) = _ :=
      Escape.read_delimiter (by decide) comment
    rwa [← heq]
  rcases eq_of_readsItem hitem hfront with rfl | ⟨last, rfl⟩
  · exact absurd hlacks (by decide)
  · exact absurd hlacks (by simp [Bracket.lacks])

/-! Two tildes. -/

/-- A tilde that stands for itself comes first, with its backslash or without it. -/
theorem exists_of_unescape_eq_tilde {left : List Char} (h : unescape ['~'] source = '~' :: left) :
    ∃ rest, (source = '~' :: rest ∨ source = '\\' :: '~' :: rest) ∧ unescape ['~'] rest = left := by
  cases source using units_induction with
  | nil => cases h
  | single c rest alone _ =>
      rw [unescape_cons alone] at h
      obtain ⟨rfl, hrest⟩ := List.cons.inj h
      exact ⟨rest, .inl rfl, hrest⟩
  | pair c rest _ =>
      rw [unescape_pair] at h
      split at h
      · obtain ⟨rfl, hrest⟩ := List.cons.inj h
        exact ⟨rest, .inr rfl, hrest⟩
      · exact absurd (List.cons.inj h).1 (by decide)
  | last => exact absurd (List.cons.inj h).1 (by decide)

theorem classItem_tilde {rest : List Char}
    (h : source = '~' :: rest ∨ source = '\\' :: '~' :: rest) :
    classItem verbose source = .ok (.literal ⟨'~', false⟩, rest) := by
  rcases h with rfl | rfl
  · exact classItem_of_ne (by decide) rest
  · have hread : Escape.read verbose ('~' :: rest) = _ := Escape.read_delimiter (by decide) rest
    exact hread

theorem skipBlanks_tilde {rest : List Char}
    (h : source = '~' :: rest ∨ source = '\\' :: '~' :: rest) :
    skipBlanks verbose source = source := by
  rcases h with rfl | rfl
  · exact skipBlanks_cons (by decide) (by decide) rest
  · exact skipBlanks_cons isSpace_backslash (by decide) _

/-- Unless it is an operation, a tilde is no sign. -/
theorem not_prefix_tilde {rest : List Char}
    (h : source = '~' :: rest ∨ source = '\\' :: '~' :: rest) (hsingle : ¬ ['~', '~'] <+: source) :
    ∀ front ∈ signs, ¬ front <+: source := by
  intro front hfront
  simp only [signs, List.mem_cons, List.not_mem_nil, or_false] at hfront
  rcases hfront with rfl | rfl | rfl | rfl | rfl
  all_goals first | exact hsingle | rcases h with rfl | rfl <;> simp

theorem readsItem_tilde {left rest : List Char} {item : Bracket}
    (hfront : source = '~' :: left ∨ source = '\\' :: '~' :: left)
    (hleft : left = '~' :: rest ∨ left = '\\' :: '~' :: rest)
    (h : ReadsItem verbose source item after) : item = .literal ⟨'~', false⟩ ∧ after = left := by
  have hitem : classItem verbose source = .ok (.literal ⟨'~', false⟩, left) :=
    classItem_tilde hfront
  have hblanks : skipBlanks verbose left = left := skipBlanks_tilde hleft
  have hhyphen : ∀ behind, left ≠ '-' :: behind := by
    rintro behind rfl
    simp at hleft
  cases h with
  | alone front behind nonempty apart set =>
      rw [hitem] at front
      cases front
      cases set
      exact ⟨rfl, behind.symm.trans hblanks⟩
  | hyphen front behind peek set =>
      rw [hitem] at front
      cases front
      exact absurd (hblanks.symm.trans behind) (hhyphen _)
  | range front behind peek back isLow isHigh ascending =>
      rw [hitem] at front
      cases front
      exact absurd (hblanks.symm.trans behind) (hhyphen _)

theorem endsTilde_unionOf_concat (items : List Bracket) (item : Bracket) :
    (Bracket.unionOf (items ++ [item])).endsTilde = item.endsTilde := by
  by_cases hitems : items = []
  · rw [hitems]
    rfl
  · rw [Bracket.unionOf_concat hitems]
    rfl

theorem endsTilde_side (reader : BracketReader) :
    (reader.add (.literal ⟨'~', false⟩)).side.1.endsTilde = true := by
  have hright := endsTilde_unionOf_concat reader.items.reverse (.literal ⟨'~', false⟩)
  rw [side, add]
  simp only [List.reverse_cons]
  split
  · exact hright
  · exact hright

/-- In a content whose tildes are apart, two tildes are an operation if they are one without their
backslashes. -/
theorem prefix_tildes_of_run (hne : reader.pending ≠ [])
    (h : reader.run verbose source = .ok (negated, content, after))
    (hcontent : content.Bears verbose '~')
    (htildes : ['~', '~'] <+: unescape ['~'] (skipBlanks verbose source)) :
    ['~', '~'] <+: skipBlanks verbose source := by
  by_contra hsingle
  obtain ⟨rest, hrest⟩ := htildes
  obtain ⟨left, hfirst, hleft⟩ := exists_of_unescape_eq_tilde hrest.symm
  obtain ⟨behind, hsecond, -⟩ := exists_of_unescape_eq_tilde hleft
  have hP : Hereditary (Bracket.Bears verbose '~') := Bracket.hereditary_bears
  obtain ⟨item, next, hitem, hrun, -⟩ := exists_item_of_run hne h hP hcontent
    (by rcases hfirst with hfirst | hfirst <;> simp [hfirst]) (not_prefix_tilde hfirst hsingle)
  obtain ⟨rfl, rfl⟩ := readsItem_tilde hfirst hsecond hitem
  have hblanks : skipBlanks verbose next = next := skipBlanks_tilde hsecond
  have hadded : (reader.add (.literal ⟨'~', false⟩)).pending ≠ [] := hne
  by_cases hoperation : ['~', '~'] <+: next
  · -- The second tilde and one behind it are an operation, the left side of which ends here.
    obtain ⟨right, rfl⟩ := hoperation
    rcases run_cases hrun with hstep | ⟨behind, left, hstep, hrun⟩
    · rw [hblanks] at hstep
      cases hstep
    · rw [hblanks] at hstep
      cases hstep
      have hhas := Has.of_run hP (List.cons_ne_nil _ _) hrun hcontent
      obtain ⟨right, hright⟩ := hhas.exists_operation
      have hapart := hright.tildesApart rfl
      simp [Bracket.tildesApart, endsTilde_side] at hapart
  · obtain ⟨item, left, hitem, -, hhas⟩ := exists_item_of_run hadded hrun hP hcontent
      (by rw [hblanks]; rcases hsecond with rfl | rfl <;> simp)
      (by rw [hblanks]; exact not_prefix_tilde hsecond hoperation)
    have hitems := hhas.items.tildesApart rfl
    have hbegins : item.beginsTilde = true := by
      rw [hblanks] at hitem
      rcases eq_of_readsItem hitem (classItem_tilde hsecond) with rfl | ⟨last, rfl⟩
      · rfl
      · rfl
    simp only [add, List.reverse_cons] at hitems
    rw [Bracket.unionOf_concat (by simp)] at hitems
    simp [Bracket.tildesApart, endsTilde_unionOf_concat, hbegins, Bracket.endsTilde] at hitems

/-! Steps and runs. -/

section Steps

variable (hd : d ∈ Turnip.delimiters)

include hd

theorem not_sign_unescape (htildes : ¬ ['~', '~'] <+: unescape [d] source)
    (h : ∀ front ∈ signs, ¬ front <+: source) :
    ∀ front ∈ signs, ¬ front <+: unescape [d] source := by
  have hother : (signs.filter (· ≠ ['~', '~'])).all (·.all isOrdinary) = true := by decide
  intro front hfront
  by_cases htilde : front = ['~', '~']
  · rwa [htilde]
  · have hmem : front ∈ signs.filter (· ≠ ['~', '~']) := by simpa using ⟨hfront, htilde⟩
    exact not_prefix_unescape hd (List.all_eq_true.mp hother front hmem) (h front hfront)

theorem step_unescape (h : reader.step verbose source = .ok (.more next after))
    (hnext : next.Has (Bracket.Bears verbose d)) (hafter : Settled verbose d after)
    (htildes : ['~', '~'] <+: unescape [d] source → ['~', '~'] <+: source) :
    reader.step verbose (unescape [d] source) = .ok (.more next (unescape [d] after)) := by
  unfold step at h
  split at h
  · cases h
  · rename_i rest
    rw [unescape_cons (by decide), step, namedClass?_unescape hd]
    split at h
    · rename_i hnamed
      cases h
      rw [hnamed]
      rfl
    · rename_i hnamed
      obtain ⟨⟨negated, items, left⟩, hopen, heq⟩ := bind_eq_ok.mp h
      cases heq
      rw [hnamed]
      exact bind_eq_ok.mpr ⟨_, openBracket_unescape hd hopen hafter, rfl⟩
  · rename_i rest
    rw [unescape_cons (by decide), step]
    split at h
    · cases h
    · cases h
      rfl
    · cases h
  · rename_i rest
    cases h
    rw [unescape_cons (by decide), unescape_cons (by decide)]
    rfl
  · rename_i rest
    cases h
    rw [unescape_cons (by decide), unescape_cons (by decide)]
    rfl
  · rename_i rest
    cases h
    rw [unescape_cons (by decide), unescape_cons (by decide)]
    rfl
  · rename_i hsource hopen hclose hand hminus htilde
    obtain ⟨⟨item, left⟩, hitem, heq⟩ := bind_eq_ok.mp h
    cases heq
    have hnone : ¬ ['~', '~'] <+: source := by
      rintro ⟨rest, rfl⟩
      exact htilde rest rfl
    have hsigns : ∀ front ∈ signs, ¬ front <+: source := by
      intro front hfront
      simp only [signs, List.mem_cons, List.not_mem_nil, or_false] at hfront
      rcases hfront with rfl | rfl | rfl | rfl | rfl
      · rintro ⟨rest, rfl⟩
        exact hopen rest rfl
      · rintro ⟨rest, rfl⟩
        exact hclose rest rfl
      · rintro ⟨rest, rfl⟩
        exact hand rest rfl
      · rintro ⟨rest, rfl⟩
        exact hminus rest rfl
      · exact hnone
    have hbears := (Has.of_add Bracket.hereditary_bears hnext).2
    rw [step_of_no_sign (fun hnil => hsource (unescape_eq_nil_iff.mp hnil))
      (not_sign_unescape hd (fun hprefix => hnone (htildes hprefix)) hsigns)]
    exact bind_eq_ok.mpr ⟨_, classRange_unescape hd hbears hitem hafter, rfl⟩

omit hd in
theorem step_done_unescape (h : reader.step verbose source = .ok (.done negated content after)) :
    reader.step verbose (unescape [d] source) =
      .ok (.done negated content (unescape [d] after)) := by
  unfold step at h
  split at h
  · cases h
  · split at h
    · cases h
    · obtain ⟨⟨negated, items, left⟩, hopen, heq⟩ := bind_eq_ok.mp h
      cases heq
  · rename_i rest
    rw [unescape_cons (by decide), step]
    split at h
    · cases h
      rfl
    · cases h
    · cases h
  · cases h
  · cases h
  · cases h
  · obtain ⟨⟨item, left⟩, hrange, heq⟩ := bind_eq_ok.mp h
    cases heq

theorem prefix_of_unescape_run (hne : reader.pending ≠ [])
    (h : reader.run verbose source = .ok (negated, content, after))
    (hcontent : content.Bears verbose d)
    (htildes : ['~', '~'] <+: unescape [d] (skipBlanks verbose source)) :
    ['~', '~'] <+: skipBlanks verbose source := by
  by_cases htilde : d = '~'
  · subst htilde
    exact prefix_tildes_of_run hne h hcontent htildes
  · exact (prefix_unescape_iff (by decide) (by simpa using Ne.symm htilde)).mp htildes

/-- A class is read in the same way without the escapes of a delimiter. -/
theorem run_unescape (hne : reader.pending ≠ [])
    (h : reader.run verbose source = .ok (negated, content, after))
    (hcontent : content.Bears verbose d) :
    reader.run verbose (unescape [d] source) = .ok (negated, content, unescape [d] after) := by
  fun_induction run verbose reader source with
  | case1 => cases h
  | case2 reader source negated content left hstep =>
      cases h
      have hrun : reader.run verbose source = .ok (negated, content, after) := by
        rw [run, hstep]
      rw [run, skipBlanks_unescape hd (settled_of_run hne hrun hcontent),
        step_done_unescape hstep]
  | case3 reader source next left hstep hlt ih =>
      have hrun : reader.run verbose source = .ok (negated, content, after) := by
        rw [run, hstep]
        simpa only [hlt, ↓reduceIte] using h
      have hsource := settled_of_run hne hrun hcontent
      have hpending := (leadsTo_of_step hstep).pending_ne_nil hne
      have hhas := Has.of_run Bracket.hereditary_bears hpending h hcontent
      have hstep := step_unescape hd hstep hhas (settled_of_run hpending h hcontent)
        (prefix_of_unescape_run hd hne hrun hcontent)
      rw [← skipBlanks_unescape hd hsource] at hstep
      have hless : (unescape [d] left).length < (unescape [d] source).length :=
        Nat.lt_of_lt_of_le (step_length_lt hstep) (skipBlanks_length_le verbose _)
      rw [run, hstep]
      simp only [hless, ↓reduceIte]
      exact ih hpending h
  | case4 => cases h

end Steps

end BracketReader

theorem readBracket_unescape (hd : d ∈ Turnip.delimiters) {negated : Bool} {content : Bracket}
    (h : readBracket verbose source = .ok (negated, content, after))
    (hcontent : content.Bears verbose d) :
    readBracket verbose (unescape [d] source) = .ok (negated, content, unescape [d] after) := by
  obtain ⟨⟨sign, items, left⟩, hopen, hrun⟩ := bind_eq_ok.mp h
  have hne : (⟨[.bracket sign []], items⟩ : BracketReader).pending ≠ [] := List.cons_ne_nil _ _
  have hleft := BracketReader.settled_of_run hne hrun hcontent
  exact bind_eq_ok.mpr ⟨_, openBracket_unescape hd hopen hleft,
    BracketReader.run_unescape hd hne hrun hcontent⟩

end Stepwise.Regex
