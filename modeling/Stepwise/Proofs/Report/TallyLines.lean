import Mathlib.Algebra.Ring.Nat
import Stepwise.Proofs.Pattern.Matching
import Stepwise.Proofs.Report.Uncoloring
import Stepwise.Proofs.Step.Pieces

/-!
# The line of a tally

A tally is told in one line, its total in front and in parentheses the outcomes that there are.
Main statement: the line without colors tells the numbers of all outcomes. Two tallies with the
same line are the same, and the numbers in the parentheses add up to the total.
-/

namespace Stepwise

/-- The outcomes that there are in display order, each with its number. -/
def Tally.present (tally : Tally) : List (Outcome × Nat) :=
  tally.toList.filter fun entry => 0 < entry.2

namespace Report

/-- An outcome with its number, in words. -/
def entryText (entry : Outcome × Nat) : String :=
  toString entry.2 ++ " " ++ entry.1.name

/-- What stands behind an entry, given the entries that follow it. -/
def closing : List (Outcome × Nat) → List Char
  | [] => [')', '\n']
  | entry :: rest => ',' :: ' ' :: ((entryText entry).toList ++ closing rest)

/-- What stands behind the total, given all entries. -/
def lineBehind : List (Outcome × Nat) → List Char
  | [] => ['\n']
  | entry :: rest => ' ' :: '(' :: ((entryText entry).toList ++ closing rest)

end Report

variable {tally other : Tally}

/-! What is present in a tally. -/

theorem Tally.mem_present_iff {outcome : Outcome} {n : Nat} :
    (outcome, n) ∈ tally.present ↔ n = tally.get outcome ∧ 0 < n := by
  rw [Tally.present, List.mem_filter, Tally.toList, List.mem_map]
  constructor
  · rintro ⟨⟨found, -, heq⟩, hpos⟩
    obtain ⟨rfl, rfl⟩ := Prod.mk.inj heq
    exact ⟨rfl, of_decide_eq_true hpos⟩
  · rintro ⟨rfl, hpos⟩
    exact ⟨⟨outcome, outcome.mem_all, rfl⟩, decide_eq_true hpos⟩

theorem Tally.get_eq_of_present_eq (h : tally.present = other.present) {outcome : Outcome}
    (hpos : 0 < tally.get outcome) : tally.get outcome = other.get outcome := by
  have hmem : (outcome, tally.get outcome) ∈ tally.present := mem_present_iff.mpr ⟨rfl, hpos⟩
  rw [h] at hmem
  exact (mem_present_iff.mp hmem).1

/-- The outcomes that are present tell all numbers: the others have none. -/
theorem Tally.present_injective (h : tally.present = other.present) : tally = other := by
  apply Tally.ext_get
  intro outcome
  by_cases hpos : 0 < tally.get outcome
  · exact get_eq_of_present_eq h hpos
  · by_cases hother : 0 < other.get outcome
    · exact (get_eq_of_present_eq h.symm hother).symm
    · omega

theorem Tally.present_eq_nil_iff : tally.present = [] ↔ ∀ outcome, tally.get outcome = 0 := by
  constructor
  · intro h outcome
    by_contra hne
    have hmem : (outcome, tally.get outcome) ∈ tally.present :=
      mem_present_iff.mpr ⟨rfl, Nat.pos_of_ne_zero hne⟩
    rw [h] at hmem
    exact absurd hmem List.not_mem_nil
  · intro h
    rw [List.eq_nil_iff_forall_not_mem]
    rintro ⟨outcome, n⟩ hmem
    obtain ⟨rfl, hpos⟩ := mem_present_iff.mp hmem
    exact absurd (h outcome) (Nat.ne_of_gt hpos)

/-- The outcomes that are not present add nothing to the total. -/
theorem Tally.sum_present (tally : Tally) : (tally.present.map (·.2)).sum = tally.total := by
  have hsum (entries : List (Outcome × Nat)) :
      ((entries.filter fun entry => 0 < entry.2).map (·.2)).sum =
        entries.foldr (fun entry sum => entry.2 + sum) 0 := by
    induction entries with
    | nil => rfl
    | cons entry entries ih =>
        rw [List.filter_cons, List.foldr_cons, ← ih]
        split
        · rw [List.map_cons, List.sum_cons]
        · rename_i hpos
          rw [decide_eq_true_eq] at hpos
          omega
  exact hsum tally.toList

theorem Tally.total_eq_zero_iff : tally.total = 0 ↔ tally.present = [] := by
  rw [← sum_present, List.sum_eq_zero_iff_forall_eq_nat]
  constructor
  · intro h
    rw [List.eq_nil_iff_forall_not_mem]
    rintro ⟨outcome, n⟩ hmem
    exact absurd (h n (List.mem_map.mpr ⟨_, hmem, rfl⟩))
      (Nat.ne_of_gt (mem_present_iff.mp hmem).2)
  · intro h
    rw [h]
    simp

theorem Tally.map_fst_present (tally : Tally) :
    tally.present.map (·.1) = Outcome.all.filter fun outcome => 0 < tally.get outcome := by
  rw [Tally.present, Tally.toList, List.filter_map, List.map_map]
  exact List.map_id _

namespace Report

variable {es fs : List (Outcome × Nat)}

/-! The entries are read one after another. -/

theorem takeWhile_isAlpha_closing (es : List (Outcome × Nat)) :
    (closing es).takeWhile Char.isAlpha = [] := by
  cases es with
  | nil => rfl
  | cons entry es => rfl

/-- An entry is a number, which ends at the space, and a name, which ends with the letters. -/
theorem entryText_append_inj {entry found : Outcome × Nat}
    (h : (entryText entry).toList ++ closing es = (entryText found).toList ++ closing fs) :
    entry = found ∧ closing es = closing fs := by
  have hspace (n : Nat) : ' ' ∉ (toString n).toList := fun hmem =>
    absurd (isDigit_of_mem_toString hmem) (by decide)
  have hletters (outcome : Outcome) : ∀ c ∈ outcome.name.toList, c.isAlpha = true :=
    List.all_iff_forall_prop.mp (by cases outcome <;> decide)
  have htext (entry : Outcome × Nat) (rest : List Char) :
      (entryText entry).toList ++ rest =
        (toString entry.2).toList ++ ' ' :: (entry.1.name.toList ++ rest) := by
    simp [entryText]
  rw [htext, htext] at h
  obtain ⟨hnumber, hname⟩ := Step.append_cons_inj_of_not_mem (hspace _) (hspace _) h
  have hbehind : (closing es).takeWhile Char.isAlpha = (closing fs).takeWhile Char.isAlpha := by
    rw [takeWhile_isAlpha_closing, takeWhile_isAlpha_closing]
  obtain ⟨hname, hclosing⟩ := Step.append_inj_of_takeWhile_eq (hletters _) (hletters _) hbehind hname
  have hfst : entry.1 = found.1 := Outcome.name_injective (String.toList_injective hname)
  have hsnd : entry.2 = found.2 := Matcher.toString_injective (String.toList_injective hnumber)
  exact ⟨Prod.ext hfst hsnd, hclosing⟩

theorem closing_injective (h : closing es = closing fs) : es = fs := by
  induction es generalizing fs with
  | nil =>
      cases fs with
      | nil => rfl
      | cons found fs => exact absurd (List.cons.inj h).1 (by decide)
  | cons entry es ih =>
      cases fs with
      | nil => exact absurd (List.cons.inj h).1 (by decide)
      | cons found fs =>
          obtain ⟨rfl, hrest⟩ := entryText_append_inj (List.cons.inj (List.cons.inj h).2).2
          rw [ih hrest]

/-! The line. -/

theorem toList_entries (entry : Outcome × Nat) (es : List (Outcome × Nat)) :
    (", ".intercalate ((entry :: es).map entryText)).toList ++ [')', '\n'] =
      (entryText entry).toList ++ closing es := by
  induction es generalizing entry with
  | nil => simp [closing]
  | cons next es ih =>
      have hnext := ih next
      rw [List.map_cons] at hnext
      rw [List.map_cons, List.map_cons, String.intercalate_cons_cons, closing]
      simp only [String.toList_append, List.append_assoc, hnext]
      rfl

/-- Whether a noun stands for what is counted in a tally. -/
def IsCounted (noun : String) : Prop :=
  noun = "step" ∨ noun = "scenario"

def totalKey (noun : String) : String :=
  noun ++ "s_count"

variable (styles : Styles) {noun : String}

theorem counted_totalKey (h : IsCounted noun) (n : Nat) :
    Catalogue.english.counted (totalKey noun) n = Catalogue.countedNoun n noun := by
  rcases h with rfl | rfl
  · rfl
  · rfl

theorem tallyDetails_eq (tally : Tally) :
    tallyDetails styles.plain .english tally = ", ".intercalate (tally.present.map entryText) := by
  rw [tallyDetails]
  simp only [counted_keyOf]
  rfl

/-- Without colors, the line of a tally tells that there is nothing, or the total and behind it,
in parentheses, the entries. -/
theorem tallyLine_eq (h : IsCounted noun) (tally : Tally) :
    tallyLine styles.plain .english (totalKey noun) tally =
      if tally.present = [] then "No " ++ noun ++ "s\n"
      else
        toString tally.total ++ " " ++ noun ++ Catalogue.pluralEnding tally.total ++ " (" ++
          ", ".intercalate (tally.present.map entryText) ++ ")\n" := by
  have hend : "s\n" = "s" ++ "\n" := by decide
  rw [tallyLine, tallyDetails_eq, counted_totalKey h, Catalogue.countedNoun]
  simp only [Tally.total_eq_zero_iff]
  by_cases hnone : tally.present = []
  · have hempty : (", ".intercalate (([] : List (Outcome × Nat)).map entryText)).isEmpty = true :=
      rfl
    simp only [hnone, hempty, hend, if_true, String.append_assoc]
  · have hdetails := tallyDetails_ne_empty styles hnone
    rw [tallyDetails_eq] at hdetails
    simp only [if_neg hnone, String.isEmpty_iff, hdetails, if_false]

theorem toList_tallyLine (h : IsCounted noun) (tally : Tally) :
    (tallyLine styles.plain .english (totalKey noun) tally).toList =
      (Catalogue.countedNoun tally.total noun).toList ++ lineBehind tally.present := by
  rw [tallyLine_eq styles h, Catalogue.countedNoun]
  simp only [Tally.total_eq_zero_iff]
  cases hpresent : tally.present with
  | nil => simp [lineBehind]
  | cons entry es =>
      have hentries := toList_entries entry es
      simp only [reduceCtorEq, if_false, String.toList_append, List.append_assoc]
      rw [lineBehind, ← hentries]
      rfl

/-- The only parenthesis in front of the entries is the one that opens them. -/
theorem not_mem_countedNoun (h : IsCounted noun) (n : Nat) :
    '(' ∉ (Catalogue.countedNoun n noun).toList := by
  have hnoun : '(' ∉ noun.toList := by
    rcases h with rfl | rfl
    · decide
    · decide
  have hdigits : '(' ∉ (toString n).toList := fun hmem =>
    absurd (isDigit_of_mem_toString hmem) (by decide)
  have hending : '(' ∉ (Catalogue.pluralEnding n).toList := by
    rw [Catalogue.pluralEnding]
    split
    · decide
    · decide
  rw [Catalogue.countedNoun]
  split
  · simp only [String.toList_append, List.mem_append, not_or]
    exact ⟨⟨by decide, hnoun⟩, by decide⟩
  · simp only [String.toList_append, List.mem_append, not_or]
    exact ⟨⟨⟨hdigits, by decide⟩, hnoun⟩, hending⟩

theorem mem_lineBehind_iff : '(' ∈ lineBehind es ↔ es ≠ [] := by
  cases es with
  | nil => simp [lineBehind]
  | cons entry es => simp [lineBehind]

theorem mem_tallyLine_iff (h : IsCounted noun) :
    '(' ∈ (tallyLine styles.plain .english (totalKey noun) tally).toList ↔ tally.present ≠ [] := by
  rw [toList_tallyLine styles h, List.mem_append, mem_lineBehind_iff]
  exact or_iff_right (not_mem_countedNoun h tally.total)

/-- Equal lines have the same entries. -/
theorem lineBehind_inj_of_append {front back : List Char} (hfront : '(' ∉ front)
    (hback : '(' ∉ back) (h : front ++ lineBehind es = back ++ lineBehind fs) : es = fs := by
  have hopen : '(' ∈ lineBehind es ↔ '(' ∈ lineBehind fs := by
    have hmem := congrArg ('(' ∈ ·) h
    simpa [hfront, hback] using hmem
  rw [mem_lineBehind_iff, mem_lineBehind_iff] at hopen
  cases es with
  | nil =>
      cases fs with
      | nil => rfl
      | cons found fs => exact absurd rfl (hopen.mpr (List.cons_ne_nil found fs))
  | cons entry es =>
      cases fs with
      | nil => exact absurd rfl (hopen.mp (List.cons_ne_nil entry es))
      | cons found fs =>
          have hspace {text : List Char} (htext : '(' ∉ text) : '(' ∉ text ++ [' '] := by
            simp [htext]
          rw [lineBehind, lineBehind, List.append_cons, List.append_cons back] at h
          obtain ⟨-, hbody⟩ := Step.append_cons_inj_of_not_mem (hspace hfront) (hspace hback) h
          obtain ⟨rfl, hclosing⟩ := entryText_append_inj hbody
          rw [closing_injective hclosing]

/-- Without colors, the line about the steps or the scenarios tells the whole tally: different
tallies have different lines. The entries in the parentheses are the outcomes that there are, in
display order and with their numbers, which add up to the total in front. There is nothing to
tell, and there are no parentheses, exactly if all numbers are zero. -/
theorem tallyLine_determines (styles : Styles) (noun : String) (h : IsCounted noun) :
    let line := tallyLine styles.plain .english (totalKey noun)
    Function.Injective line ∧ ∀ tally : Tally,
      (line tally =
        if tally.present = [] then "No " ++ noun ++ "s\n"
        else
          toString tally.total ++ " " ++ noun ++ Catalogue.pluralEnding tally.total ++ " (" ++
            ", ".intercalate (tally.present.map fun (outcome, n) =>
              toString n ++ " " ++ outcome.name) ++ ")\n") ∧
      tally.present.map (·.1) = (Outcome.all.filter fun outcome => tally.get outcome ≠ 0) ∧
      (∀ entry ∈ tally.present, entry.2 = tally.get entry.1) ∧
      (tally.present.map (·.2)).sum = tally.total ∧
      (line tally = "No " ++ noun ++ "s\n" ↔ ∀ outcome, tally.get outcome = 0) ∧
      ('(' ∉ (line tally).toList ↔ ∀ outcome, tally.get outcome = 0) := by
  intro line
  have hopen (tally : Tally) : '(' ∉ (line tally).toList ↔ ∀ outcome, tally.get outcome = 0 := by
    rw [mem_tallyLine_iff styles h, not_ne_iff, Tally.present_eq_nil_iff]
  refine ⟨?_, fun tally => ⟨tallyLine_eq styles h tally, ?_, ?_, tally.sum_present, ?_, hopen tally⟩⟩
  · intro tally other heq
    have hlines := congrArg String.toList heq
    rw [toList_tallyLine styles h, toList_tallyLine styles h] at hlines
    exact Tally.present_injective (lineBehind_inj_of_append (not_mem_countedNoun h _)
      (not_mem_countedNoun h _) hlines)
  · rw [tally.map_fst_present]
    simp only [Nat.pos_iff_ne_zero]
  · rintro ⟨outcome, n⟩ hentry
    exact (Tally.mem_present_iff.mp hentry).1
  · constructor
    · intro heq
      rw [← hopen, heq]
      have hnothing := not_mem_countedNoun h 0
      simpa [Catalogue.countedNoun] using hnothing
    · intro hzero
      have hline := tallyLine_eq styles h tally
      rwa [if_pos (Tally.present_eq_nil_iff.mpr hzero)] at hline

theorem tallyLine_determines_step :
    let line := tallyLine Styles.usual.plain .english "steps_count"
    IsCounted "step" ∧ Function.Injective line ∧
      line { passed := 12, failed := 1, skipped := 3 } =
        "16 steps (12 passed, 1 failed, 3 skipped)\n" ∧
      line {} = "No steps\n" := by
  obtain ⟨hinjective, hlines⟩ := tallyLine_determines {} "step" (Or.inl rfl)
  refine ⟨Or.inl rfl, hinjective, ?_, ?_⟩
  · exact (hlines { passed := 12, failed := 1, skipped := 3 }).1
  · exact (hlines {}).1

end Report

end Stepwise
