import Stepwise.Pattern.Replacement
import Stepwise.Report.Sections

/-!
# Reports without their colors

The escape sequences that color a text are removed again. Main statement: every section of a
colored report becomes the section that is printed without colors, as long as none of the texts
in it has an escape character.
-/

namespace Stepwise

/-! Escape sequences. -/

/-- Removes an escape sequence that selects or ends a color: an escape character and a bracket,
digits and semicolons, and the letter behind them. -/
def sequenceRule : ReplacementRule
  | '\x1b' :: '[' :: rest =>
      match rest.dropWhile isCodeCharacter with
      | 'm' :: after => some ([], after)
      | _ => none
  | _ => none

def uncolored (text : String) : String :=
  String.ofList (sequenceRule.replaceAll text.toList)

/-- A text has no escape character. -/
def IsUncolored (text : String) : Prop :=
  '\x1b' ∉ text.toList

instance (text : String) : Decidable (IsUncolored text) :=
  inferInstanceAs (Decidable ('\x1b' ∉ text.toList))

/-- Without its escape sequences a text is another one, whatever stands behind it. -/
def Uncolors (colored plain : String) : Prop :=
  ∀ rest, sequenceRule.replaceAll (colored.toList ++ rest) =
    plain.toList ++ sequenceRule.replaceAll rest

theorem isUncolored_empty : IsUncolored "" := by
  decide

theorem isUncolored_append {a b : String} :
    IsUncolored (a ++ b) ↔ IsUncolored a ∧ IsUncolored b := by
  simp [IsUncolored]

theorem isDigit_of_mem_toString {n : Nat} {c : Char} (hc : c ∈ (toString n).toList) :
    c.isDigit = true := by
  rw [Nat.toString_eq_ofList_toDigits, String.toList_ofList] at hc
  exact Nat.isDigit_of_mem_toDigits (by decide) (by decide) hc

theorem isUncolored_toString (n : Nat) : IsUncolored (toString n) :=
  fun hmem => absurd (isDigit_of_mem_toString hmem) (by decide)

/-- The lines of a text have no other characters than the text. -/
theorem mem_of_mem_cutLines {text line : List Char} (hline : line ∈ Text.cutLines text) {c : Char}
    (hc : c ∈ line) : c ∈ text := by
  induction text generalizing line with
  | nil =>
      rw [Text.cutLines, List.mem_singleton] at hline
      rwa [hline] at hc
  | cons d text ih =>
      rw [Text.cutLines] at hline
      split at hline
      · rcases List.mem_cons.mp hline with rfl | hline
        · exact absurd hc List.not_mem_nil
        · exact List.mem_cons_of_mem d (ih hline hc)
      · split at hline
        · rename_i hlines
          exact absurd hlines (Text.cutLines_ne_nil text)
        · rename_i first others hlines
          rw [hlines] at ih
          rcases List.mem_cons.mp hline with rfl | hline
          · rcases List.mem_cons.mp hc with rfl | hc
            · exact List.mem_cons_self
            · exact List.mem_cons_of_mem d (ih List.mem_cons_self hc)
          · exact List.mem_cons_of_mem d (ih (List.mem_cons_of_mem first hline) hc)

theorem IsUncolored.of_mem_lines {text line : String} (h : IsUncolored text)
    (hline : line ∈ Text.lines text) : IsUncolored line := by
  obtain ⟨chars, hchars, rfl⟩ := List.mem_map.mp hline
  rw [IsUncolored, String.toList_ofList]
  exact fun hmem => h (mem_of_mem_cutLines hchars hmem)

theorem isUncolored_join {texts : List String} (h : ∀ text ∈ texts, IsUncolored text) :
    IsUncolored (String.join texts) := by
  rw [IsUncolored, String.toList_join, List.mem_flatMap]
  rintro ⟨text, htext, hmem⟩
  exact h text htext hmem

/-! Texts that are colored. -/

theorem sequenceRule_of_ne {c : Char} (hc : c ≠ '\x1b') (rest : List Char) :
    sequenceRule (c :: rest) = none := by
  unfold sequenceRule
  split
  · rename_i heq
    exact absurd (List.cons.inj heq).1 hc
  · rfl

namespace Uncolors

variable {a b c d : String}

theorem uncolored_eq (h : Uncolors a b) : uncolored a = b := by
  have hall := h []
  rw [List.append_nil, ReplacementRule.replaceAll, List.append_nil] at hall
  rw [uncolored, hall, String.ofList_toList]

theorem append (hleft : Uncolors a b) (hright : Uncolors c d) : Uncolors (a ++ c) (b ++ d) := by
  intro rest
  rw [String.toList_append, String.toList_append, List.append_assoc, hleft, hright,
    List.append_assoc]

/-- A text without escape characters stays as it is. -/
theorem of_isUncolored (h : IsUncolored a) : Uncolors a a := by
  intro rest
  rw [IsUncolored] at h
  generalize a.toList = cs at h
  induction cs with
  | nil => rfl
  | cons c cs ih =>
      rw [List.mem_cons, not_or] at h
      rw [List.cons_append, ReplacementRule.replaceAll, sequenceRule_of_ne (Ne.symm h.1)]
      simp only [ih h.2, List.cons_append]

/-- An escape sequence is removed. -/
theorem sequence {code : String} (hcode : code.toList.all isCodeCharacter = true) :
    Uncolors (Styles.sequence code) "" := by
  intro rest
  have htext : (Styles.sequence code).toList ++ rest =
      '\x1b' :: '[' :: (code.toList ++ 'm' :: rest) := by
    simp [Styles.sequence]
  have hrule : sequenceRule ('\x1b' :: '[' :: (code.toList ++ 'm' :: rest)) = some ([], rest) := by
    have hdrop : (code.toList ++ 'm' :: rest).dropWhile isCodeCharacter = 'm' :: rest := by
      rw [List.dropWhile_append_of_pos (List.all_eq_true.mp hcode)]
      rfl
    simp only [sequenceRule, hdrop]
  have hlength : rest.length ≤ ('[' :: (code.toList ++ 'm' :: rest)).length := by
    simp only [List.length_cons, List.length_append]
    omega
  rw [htext, ReplacementRule.replaceAll, hrule]
  simp only [hlength, ↓reduceIte]
  rfl

theorem paint (styles : Styles) {style : Style} (hforced : style.forced = true)
    (h : IsUncolored a) : Uncolors (styles.force.paint style a) a := by
  have hsequences : Uncolors (Styles.sequence style.code ++ a ++ Styles.sequence "0")
      ("" ++ a ++ "") :=
    ((sequence style.isCode).append (of_isUncolored h)).append (sequence (by decide))
  rw [Styles.paint, hforced]
  rwa [String.empty_append, String.append_empty] at hsequences

theorem outcome (styles : Styles) (outcome : Outcome) (h : IsUncolored a) :
    Uncolors (styles.force.outcome outcome a) (styles.plain.outcome outcome a) := by
  rw [Styles.outcome, Styles.of_force]
  exact paint styles rfl h

example : uncolored (Styles.usual.force.outcome .failed "F" ++ " 70") = "F 70" := by
  cbv

theorem comment (styles : Styles) (h : IsUncolored a) :
    Uncolors (styles.force.comment a) (styles.plain.comment a) :=
  paint styles rfl h

theorem join {α : Type} {f g : α → String} {entries : List α}
    (h : ∀ entry ∈ entries, Uncolors (f entry) (g entry)) :
    Uncolors (String.join (entries.map f)) (String.join (entries.map g)) := by
  induction entries with
  | nil => exact of_isUncolored isUncolored_empty
  | cons entry entries ih =>
      rw [List.forall_mem_cons] at h
      rw [List.map_cons, List.map_cons, String.join_cons, String.join_cons]
      exact h.1.append (ih h.2)

theorem intercalate {α : Type} {f g : α → String} {separator : String} {entries : List α}
    (hseparator : IsUncolored separator) (h : ∀ entry ∈ entries, Uncolors (f entry) (g entry)) :
    Uncolors (separator.intercalate (entries.map f)) (separator.intercalate (entries.map g)) := by
  induction entries with
  | nil => exact of_isUncolored isUncolored_empty
  | cons entry entries ih =>
      rw [List.forall_mem_cons] at h
      cases entries with
      | nil => simpa using h.1
      | cons next entries =>
          simp only [List.map_cons, String.intercalate_cons_cons] at ih ⊢
          exact (h.1.append (of_isUncolored hseparator)).append (ih h.2)

/-- Only an empty text has nothing but an empty text without colors. -/
theorem ne_empty (h : Uncolors a b) (hb : b ≠ "") : a ≠ "" := by
  rintro rfl
  rw [← h.uncolored_eq] at hb
  exact hb (by cbv)

/-- A text stands between others. -/
theorem between {front back : String} (hfront : IsUncolored front) (h : Uncolors a b)
    (hback : IsUncolored back) : Uncolors (front ++ a ++ back) (front ++ b ++ back) :=
  ((of_isUncolored hfront).append h).append (of_isUncolored hback)

end Uncolors

/-! The sections of a report. -/

def FailureRecord.texts (failure : FailureRecord) : List String :=
  [failure.description, failure.location, failure.message] ++ failure.output.toList

def PendingRecord.texts (pending : PendingRecord) : List String :=
  [pending.description, pending.location, pending.message]

namespace Report

variable (styles : Styles) {scenarios : List String} {failure : FailureRecord}
  {pending : PendingRecord}

theorem uncolors_title (outcome : Outcome) {text : String} (h : IsUncolored text) :
    Uncolors (title styles.force outcome text) (title styles.plain outcome text) :=
  .between (by decide) (.outcome styles outcome h) (by decide)

theorem uncolors_indented (outcome : Outcome) {indent message : String}
    (hindent : IsUncolored indent) (h : IsUncolored message) :
    Uncolors (indented styles.force outcome indent message)
      (indented styles.plain outcome indent message) := by
  rw [indented, indented]
  split
  · exact .of_isUncolored isUncolored_empty
  · apply Uncolors.join
    intro line hline
    exact .between hindent (.outcome styles outcome (h.of_mem_lines hline)) (by decide)

theorem isUncolored_capturedOutput {output : Option String}
    (h : ∀ text ∈ output.toList, IsUncolored text) : IsUncolored (capturedOutput output) := by
  cases output with
  | none => exact isUncolored_empty
  | some text =>
      apply isUncolored_join
      intro printed hprinted
      obtain ⟨line, hline, rfl⟩ := List.mem_map.mp hprinted
      have htext : IsUncolored text := h text (by simp)
      exact isUncolored_append.mpr ⟨isUncolored_append.mpr
        ⟨by decide, htext.of_mem_lines hline⟩, by decide⟩

theorem uncolors_scenarioLine (h : ∀ text ∈ scenarios, IsUncolored text) (position : Nat) :
    Uncolors (scenarioLine styles.force scenarios position)
      (scenarioLine styles.plain scenarios position) := by
  rw [scenarioLine, scenarioLine]
  cases hscenario : scenarios[position]? with
  | none => exact .of_isUncolored isUncolored_empty
  | some scenario =>
      have hplain : IsUncolored scenario := h scenario (List.mem_of_getElem? hscenario)
      exact .between (by decide) (.outcome styles .failed hplain) (by decide)

/-- The line of a step, with a remark behind it. -/
theorem uncolors_stepLine (outcome : Outcome) {indent description location : String}
    (hindent : IsUncolored indent) (hdescription : IsUncolored description)
    (hlocation : IsUncolored location) :
    Uncolors
      (indent ++ styles.force.outcome outcome description ++ " " ++
        styles.force.comment ("# " ++ location) ++ "\n")
      (indent ++ styles.plain.outcome outcome description ++ " " ++
        styles.plain.comment ("# " ++ location) ++ "\n") := by
  have hremark : IsUncolored ("# " ++ location) := isUncolored_append.mpr ⟨by decide, hlocation⟩
  exact ((Uncolors.between hindent (.outcome styles outcome hdescription) (by decide)).append
    (.comment styles hremark)).append (.of_isUncolored (by decide))

theorem uncolors_failureEntry (hscenarios : ∀ text ∈ scenarios, IsUncolored text)
    (h : ∀ text ∈ failure.texts, IsUncolored text) :
    Uncolors (failureEntry styles.force scenarios failure)
      (failureEntry styles.plain scenarios failure) := by
  simp only [FailureRecord.texts, List.forall_mem_append, List.forall_mem_cons] at h
  obtain ⟨⟨hdescription, hlocation, hmessage, -⟩, houtput⟩ := h
  have hscenario := uncolors_scenarioLine styles hscenarios failure.scenario
  have hline := uncolors_stepLine styles .failed (show IsUncolored "      " by decide) hdescription
    hlocation
  have hprinted := Uncolors.of_isUncolored (isUncolored_capturedOutput houtput)
  have herror := uncolors_indented styles .failed (show IsUncolored "        " by decide) hmessage
  have hend : Uncolors "\n" "\n" := .of_isUncolored (by decide)
  have hentry := hscenario.append (hline.append (hprinted.append (herror.append hend)))
  simpa only [failureEntry, String.append_assoc] using hentry

theorem uncolors_pendingEntry (h : ∀ text ∈ pending.texts, IsUncolored text) :
    Uncolors (pendingEntry styles.force pending) (pendingEntry styles.plain pending) := by
  simp only [PendingRecord.texts, List.forall_mem_cons] at h
  obtain ⟨hdescription, hlocation, hmessage, -⟩ := h
  have hline := uncolors_stepLine styles .pending (show IsUncolored "    " by decide) hdescription
    hlocation
  have herror := uncolors_indented styles .pending (show IsUncolored "      " by decide) hmessage
  exact (hline.append herror).append (.of_isUncolored (by decide))

theorem uncolors_failedSteps {failures : List FailureRecord}
    (hscenarios : ∀ text ∈ scenarios, IsUncolored text)
    (h : ∀ failure ∈ failures, ∀ text ∈ failure.texts, IsUncolored text) :
    Uncolors (failedSteps styles.force .english failures scenarios)
      (failedSteps styles.plain .english failures scenarios) := by
  rw [failedSteps, failedSteps]
  split
  · exact .of_isUncolored isUncolored_empty
  · refine (uncolors_title styles .failed (by decide)).append (.join fun failure hfailure => ?_)
    exact uncolors_failureEntry styles hscenarios (h failure hfailure)

theorem uncolors_pendingSteps {records : List PendingRecord}
    (h : ∀ pending ∈ records, ∀ text ∈ pending.texts, IsUncolored text) :
    Uncolors (pendingSteps styles.force .english records)
      (pendingSteps styles.plain .english records) := by
  rw [pendingSteps, pendingSteps]
  split
  · exact .of_isUncolored isUncolored_empty
  · refine (uncolors_title styles .pending (by decide)).append (.join fun pending hpending => ?_)
    exact uncolors_pendingEntry styles (h pending hpending)

/-- The number of steps or scenarios that ended with an outcome, in words. -/
theorem counted_keyOf (outcome : Outcome) (n : Nat) :
    Catalogue.english.counted (Catalogue.keyOf outcome) n = toString n ++ " " ++ outcome.name := by
  cases outcome <;> rfl

theorem isUncolored_pluralEnding (n : Nat) : IsUncolored (Catalogue.pluralEnding n) := by
  rw [Catalogue.pluralEnding]
  split <;> decide

theorem isUncolored_countedNoun (n : Nat) {noun : String} (h : IsUncolored noun) :
    IsUncolored (Catalogue.countedNoun n noun) := by
  rw [Catalogue.countedNoun]
  split
  · exact isUncolored_append.mpr ⟨isUncolored_append.mpr ⟨by decide, h⟩, by decide⟩
  · exact isUncolored_append.mpr ⟨isUncolored_append.mpr
      ⟨isUncolored_append.mpr ⟨isUncolored_toString n, by decide⟩, h⟩, isUncolored_pluralEnding n⟩

theorem isUncolored_counted_keyOf (outcome : Outcome) (n : Nat) :
    IsUncolored (Catalogue.english.counted (Catalogue.keyOf outcome) n) := by
  have hname : IsUncolored outcome.name := by cases outcome <;> decide
  rw [counted_keyOf]
  exact isUncolored_append.mpr
    ⟨isUncolored_append.mpr ⟨isUncolored_toString n, by decide⟩, hname⟩

theorem uncolors_tallyDetails (tally : Tally) :
    Uncolors (tallyDetails styles.force .english tally)
      (tallyDetails styles.plain .english tally) := by
  apply Uncolors.intercalate (by decide)
  intro entry hentry
  exact .outcome styles entry.1 (isUncolored_counted_keyOf entry.1 entry.2)

/-- The details of a tally are only left out if there is nothing to tell, colored or not: no
number of an outcome is an empty text. -/
theorem tallyDetails_ne_empty {tally : Tally}
    (h : (tally.toList.filter fun entry => 0 < entry.2) ≠ []) :
    tallyDetails styles.plain .english tally ≠ "" := by
  obtain ⟨entry, entries, hentries⟩ := List.exists_cons_of_ne_nil h
  rw [tallyDetails, hentries, List.map_cons]
  cases entries with
  | nil =>
      rw [List.map_nil, String.intercalate_singleton]
      change Catalogue.english.counted (Catalogue.keyOf entry.1) entry.2 ≠ ""
      rw [counted_keyOf]
      intro hempty
      have hlength := congrArg String.length hempty
      simp at hlength
  | cons next entries =>
      rw [List.map_cons, String.intercalate_cons_cons]
      intro hempty
      have hlength := congrArg String.length hempty
      simp at hlength

theorem uncolors_tallyLine (totalKey : String) (tally : Tally)
    (htotal : IsUncolored (Catalogue.english.counted totalKey tally.total)) :
    Uncolors (tallyLine styles.force .english totalKey tally)
      (tallyLine styles.plain .english totalKey tally) := by
  have hdetails := uncolors_tallyDetails styles tally
  by_cases hnone : (tally.toList.filter fun entry => 0 < entry.2) = []
  · have hempty (styles : Styles) : tallyDetails styles .english tally = "" := by
      rw [tallyDetails, hnone]
      rfl
    simp only [tallyLine, hempty]
    exact .of_isUncolored (isUncolored_append.mpr ⟨htotal, by decide⟩)
  · have hplain := tallyDetails_ne_empty styles hnone
    have hcolored := hdetails.ne_empty hplain
    simp only [tallyLine, String.isEmpty_iff, hplain, hcolored, if_false]
    exact .between (isUncolored_append.mpr ⟨htotal, by decide⟩) hdetails (by decide)

theorem uncolors_failedTeardowns (count : Nat) :
    Uncolors (failedTeardowns styles.force .english count)
      (failedTeardowns styles.plain .english count) := by
  rw [failedTeardowns, failedTeardowns]
  split
  · exact .of_isUncolored isUncolored_empty
  · have hcounted : IsUncolored (Catalogue.english.counted "failed_teardowns_count" count) :=
      isUncolored_append.mpr ⟨isUncolored_append.mpr ⟨isUncolored_toString count, by decide⟩,
        isUncolored_pluralEnding count⟩
    exact (Uncolors.outcome styles .failed hcounted).append (.of_isUncolored (by decide))

end Report

end Stepwise
