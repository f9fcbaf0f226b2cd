import Stepwise.Proofs.Step.Pieces
import Stepwise.Proofs.Turnip.Reading

/-!
# The arguments of a turnip pattern

A text that a pattern matches has a value for each of its placeholders, in double quotes, in
single quotes or bare. Main statements: the arguments of a text are the values in one way of
reading it, and a pattern of placeholders and characters only is read in one way at most.
-/

namespace Stepwise.Turnip

open Regex

/-- How a value is written in the place of a placeholder. -/
inductive Quoting
  | double
  | single
  | bare
deriving DecidableEq, Repr

namespace Quoting

/-- What stands on either side of a value. -/
def quotes : Quoting → List Char
  | double => ['"']
  | single => ['\'']
  | bare => []

def written (quoting : Quoting) (value : List Char) : List Char :=
  quoting.quotes ++ value ++ quoting.quotes

/-- Whether a value may be written between two texts. A bare value is a whole word. -/
def Allows (quoting : Quoting) (before value after : List Char) : Prop :=
  value ≠ [] ∧
    match quoting with
    | double => '"' ∉ value
    | single => '\'' ∉ value
    | bare => (∀ c ∈ value, Unicode.isWord c = true) ∧
        before.getLast?.any Unicode.isWord = false ∧ after.head?.any Unicode.isWord = false

/-- The number of the group that remembers a value behind a number of groups. -/
def group (n : Nat) : Quoting → Nat
  | double => n + 1
  | single => n + 2
  | bare => n + 3

/-- What the group of a value remembers. -/
def marks (quoting : Quoting) (n : Nat) (before value : List Char) : List Mark :=
  [⟨2 * quoting.group n + 1, (before ++ quoting.quotes ++ value).length⟩,
    ⟨2 * quoting.group n, (before ++ quoting.quotes).length⟩]

theorem lt_group (quoting : Quoting) (n : Nat) : n < quoting.group n ∧ quoting.group n ≤ n + 3 := by
  cases quoting with
  | double => simp [group]
  | single => simp [group]
  | bare => simp [group]

end Quoting

/-! What a placeholder matches and remembers. -/

variable {before piece value after : List Char} {n : Nat}

theorem isWordBoundary_before_iff (hne : value ≠ []) (hall : ∀ c ∈ value, Unicode.isWord c = true) :
    IsWordBoundary before (value ++ after) ↔ before.getLast?.any Unicode.isWord = false := by
  obtain ⟨c, others, rfl⟩ := List.exists_cons_of_ne_nil hne
  have hc : (c :: others ++ after).head?.any Unicode.isWord = true := hall c List.mem_cons_self
  rw [IsWordBoundary, hc, ne_eq, Bool.not_eq_true]

theorem isWordBoundary_behind_iff (hne : value ≠ [])
    (hall : ∀ c ∈ value, Unicode.isWord c = true) :
    IsWordBoundary (before ++ value) after ↔ after.head?.any Unicode.isWord = false := by
  have hlast : (before ++ value).getLast?.any Unicode.isWord = true := by
    rw [List.getLast?_append, List.getLast?_eq_some_getLast hne, Option.some_or]
    exact hall _ (List.getLast_mem hne)
  rw [IsWordBoundary, hlast, ne_comm, ne_eq, Bool.not_eq_true]

/-- A bare value begins and ends at a word boundary. -/
theorem Quoting.allows_bare_iff :
    Quoting.bare.Allows before value after ↔
      value ≠ [] ∧ (∀ c ∈ value, Unicode.isWord c = true) ∧
        IsWordBoundary before (value ++ after) ∧ IsWordBoundary (before ++ value) after := by
  refine and_congr_right fun hne => and_congr_right fun hall => ?_
  rw [isWordBoundary_before_iff hne hall, isWordBoundary_behind_iff hne hall]

/-- A placeholder matches a value that may be written in its place, and remembers it. -/
theorem placeholderPassage_iff {marks : List Mark} :
    placeholderPassage n before piece after marks ↔
      ∃ quoting value, Quoting.Allows quoting before value after ∧
        piece = quoting.written value ∧ marks = quoting.marks n before value := by
  have henclosed {quote : Char} {index : Nat} :
      Passage.enclosed quote 1 index before piece after marks ↔
        ∃ value, (value ≠ [] ∧ quote ∉ value) ∧ piece = [quote] ++ value ++ [quote] ∧
          marks = [⟨2 * index + 1, (before ++ [quote] ++ value).length⟩,
            ⟨2 * index, (before ++ [quote]).length⟩] := by
    rw [Passage.enclosed_iff]
    constructor
    · intro h
      obtain ⟨value, hpiece, hlength, hquote, hmarks⟩ := h
      exact ⟨value, ⟨List.ne_nil_of_length_pos hlength, hquote⟩, hpiece, by simpa using hmarks⟩
    · intro h
      obtain ⟨value, ⟨hne, hquote⟩, hpiece, hmarks⟩ := h
      exact ⟨value, hpiece, List.length_pos_of_ne_nil hne, hquote, by simpa using hmarks⟩
  constructor
  · intro h
    rcases h with hdouble | hsingle | hbare
    · exact ⟨.double, henclosed.mp hdouble⟩
    · exact ⟨.single, henclosed.mp hsingle⟩
    · obtain ⟨hword, hmarks⟩ := bareWord_iff.mp hbare
      exact ⟨.bare, piece, Quoting.allows_bare_iff.mpr hword, by simp [Quoting.written, Quoting.quotes],
        by simpa [Quoting.marks, Quoting.quotes, Quoting.group] using hmarks⟩
  · intro h
    obtain ⟨quoting, value, hallows, hpiece, hmarks⟩ := h
    cases quoting with
    | double => exact Or.inl (henclosed.mpr ⟨value, hallows, hpiece, hmarks⟩)
    | single => exact Or.inr (Or.inl (henclosed.mpr ⟨value, hallows, hpiece, hmarks⟩))
    | bare =>
        obtain rfl : piece = value := by
          simpa [Quoting.written, Quoting.quotes] using hpiece
        refine Or.inr (Or.inr (bareWord_iff.mpr ⟨Quoting.allows_bare_iff.mp hallows, ?_⟩))
        simpa [Quoting.marks, Quoting.quotes, Quoting.group] using hmarks

/-- Of the groups of a placeholder, the one of the quoting remembers the value. -/
theorem groupText?_marks {quoting : Quoting} {earlier : List Mark} {index : Nat}
    (hearlier : ∀ mark ∈ earlier, mark.slot < 2 * (n + 1)) (hindex : n < index) :
    groupText? (before ++ quoting.written value ++ after)
      (quoting.marks n before value ++ earlier) index =
        if index = quoting.group n then some value else none := by
  by_cases hgroup : index = quoting.group n
  · rw [if_pos hgroup, hgroup]
    apply groupText?_append_left
    have hpair := groupText?_pair (before ++ quoting.quotes) value (quoting.quotes ++ after)
      (quoting.group n)
    simpa [Quoting.written, Quoting.marks] using hpair
  · rw [if_neg hgroup]
    apply groupText?_eq_none
    intro mark hmark
    rcases List.mem_append.mp hmark with hown | hmem
    · simp only [Quoting.marks, List.mem_cons, List.not_mem_nil, or_false] at hown
      rcases hown with rfl | rfl
      · simp only [ne_eq]
        omega
      · simp only [ne_eq]
        omega
    · have hslot := hearlier mark hmem
      omega

/-! What a row of items matches and remembers. -/

/-- A text is made of pieces for the items in a row, with values in the places of the
placeholders. -/
inductive ReadsAs : List Item → (before text : List Char) → List (Quoting × List Char) → Prop
  | nil {before : List Char} : ReadsAs [] before [] []
  | placeholder {name before value after : List Char} {quoting : Quoting} {rest : List Item}
      {values : List (Quoting × List Char)} (allowed : quoting.Allows before value after)
      (others : ReadsAs rest (before ++ quoting.written value) after values) :
      ReadsAs (.placeholder name :: rest) before (quoting.written value ++ after)
        ((quoting, value) :: values)
  | silent {item : Item} {before piece after : List Char} {rest : List Item}
      {values : List (Quoting × List Char)} (hname : item.name? = none)
      (hpiece : item.Matches before piece after)
      (others : ReadsAs rest (before ++ piece) after values) :
      ReadsAs (item :: rest) before (piece ++ after) values

def bindings (names : List (List Char)) (values : List (Quoting × List Char)) :
    List (String × String) :=
  (names.zip values).map fun (name, _, value) => (String.ofList name, String.ofList value)

variable {item : Item} {row : List Item} {text : List Char} {marks : List Mark}

theorem Item.eq_placeholder {name : List Char} (hname : item.name? = some name) :
    item = .placeholder name := by
  cases item with
  | placeholder other => rw [Option.some.inj hname]
  | char c => exact absurd hname (by simp [Item.name?])
  | optional lead text trail => exact absurd hname (by simp [Item.name?])
  | choice left right => exact absurd hname (by simp [Item.name?])

theorem Item.groupNames_eq_nil (hname : item.name? = none) : item.groupNames = [] := by
  cases item with
  | placeholder name => exact absurd hname (by simp [Item.name?])
  | char c => rfl
  | optional lead text trail => rfl
  | choice left right => rfl

/-- Only placeholders remember something. -/
theorem Item.marks_eq_nil (hname : item.name? = none)
    (h : item.passage n before piece after marks) : marks = [] := by
  have hmaybe {cs before piece after : List Char} {marks : List Mark}
      (h : maybePassage cs before piece after marks) : marks = [] := by
    rcases h with ⟨-, hmarks⟩ | ⟨-, hmarks⟩ <;> exact hmarks
  cases item with
  | char c => exact h.2
  | placeholder name => exact absurd hname (by simp [Item.name?])
  | optional lead text trail =>
      obtain ⟨_, _, _, _, -, rfl, hlead, _, _, _, _, -, rfl, htext, htrail⟩ := h
      rw [hmaybe hlead, hmaybe htext, hmaybe htrail]
      rfl
  | choice left right => rcases h with ⟨-, hmarks⟩ | ⟨-, hmarks⟩ <;> exact hmarks

/-- An item remembers places for its own groups. -/
theorem Item.slot_of_passage (h : item.passage n before piece after marks) :
    ∀ mark ∈ marks, 2 * (n + 1) ≤ mark.slot ∧ mark.slot < 2 * (n + item.groupNames.length + 1) := by
  cases hname : item.name? with
  | none =>
      rw [Item.marks_eq_nil hname h]
      exact fun mark hmark => absurd hmark List.not_mem_nil
  | some name =>
      obtain rfl := Item.eq_placeholder hname
      obtain ⟨quoting, value, -, -, rfl⟩ := placeholderPassage_iff.mp h
      have hlength : (Item.placeholder name).groupNames.length = 3 := rfl
      have hgroup := quoting.lt_group n
      intro mark hmark
      simp only [Quoting.marks, List.mem_cons, List.not_mem_nil, or_false] at hmark
      rcases hmark with rfl | rfl
      · simp only [hlength]
        omega
      · simp only [hlength]
        omega

/-- The groups of items behind others have larger numbers. -/
theorem slot_of_rowPassage (h : rowPassage n row before text after marks) :
    ∀ mark ∈ marks, 2 * (n + 1) ≤ mark.slot := by
  induction row generalizing n before text marks with
  | nil =>
      obtain ⟨-, rfl⟩ := h
      simp
  | cons item rest ih =>
      obtain ⟨_, _, _, _, rfl, rfl, hitem, hrest⟩ := h
      intro mark hmark
      rcases List.mem_append.mp hmark with hlater | hown
      · have hslot := ih hrest mark hlater
        omega
      · exact (Item.slot_of_passage hitem mark hown).1

/-- What the groups of a placeholder remember is its value. -/
theorem captured?_placeholder {name : List Char} (hwell : (Item.placeholder name).WellFormed)
    {quoting : Quoting} {all : List Mark}
    (hall : ∀ index, n < index → index ≤ n + 3 → groupText? text all index =
      if index = quoting.group n then some value else none) :
    ((Item.placeholder name).groupNames.zipIdx n).filterMap (fun (name, i) =>
      Matcher.captured? (name, groupText? text all (i + 1)) (i + 1)) =
        [(String.ofList name, String.ofList value)] := by
  have hdot : '.' ∉ name := fun hmem => absurd (hwell.2 _ hmem) (by decide)
  have hname {m : List Char} (hm : m ∈ aliases name) (index : Nat) :
      Matcher.argumentName (some (String.ofList m)) index = String.ofList name := by
    rw [Matcher.argumentName, String.toList_ofList, takeWhile_of_mem_aliases hdot hm]
  have hgroups : (Item.placeholder name).groupNames.zipIdx n =
      [(some (String.ofList name), n), (some (String.ofList (name ++ ".single".toList)), n + 1),
        (some (String.ofList (name ++ ".bare".toList)), n + 2)] := rfl
  have hfirst := hall (n + 1) (by omega) (by omega)
  have hsecond := hall (n + 2) (by omega) (by omega)
  have hthird := hall (n + 3) (by omega) (by omega)
  have hone : name ∈ aliases name := List.mem_cons_self
  have htwo : name ++ ".single".toList ∈ aliases name := List.mem_cons_of_mem _ List.mem_cons_self
  have hthree : name ++ ".bare".toList ∈ aliases name :=
    List.mem_cons_of_mem _ (List.mem_cons_of_mem _ List.mem_cons_self)
  rw [hgroups]
  simp only [List.filterMap_cons, List.filterMap_nil, Matcher.captured?, hfirst, hsecond, hthird,
    hname hone, hname htwo, hname hthree]
  cases quoting with
  | double => simp [Quoting.group]
  | single => simp [Quoting.group]
  | bare => simp [Quoting.group]

/-- In a text that a row of items matches, there is a value for each placeholder, and what the
groups remember are these values, whatever other groups remembered before. -/
theorem readsAs_of_rowPassage (hwell : ∀ i ∈ row, i.WellFormed)
    (h : rowPassage n row before text [] marks) :
    ∃ values, ReadsAs row before text values ∧
      ∀ earlier : List Mark, (∀ mark ∈ earlier, mark.slot < 2 * (n + 1)) →
        ((row.flatMap Item.groupNames).zipIdx n).filterMap (fun (name, i) =>
          Matcher.captured? (name, groupText? (before ++ text) (marks ++ earlier) (i + 1))
            (i + 1)) = bindings (row.filterMap Item.name?) values := by
  induction row generalizing n before text marks with
  | nil =>
      obtain ⟨rfl, rfl⟩ := h
      exact ⟨[], .nil, fun _ _ => rfl⟩
  | cons item rest ih =>
      obtain ⟨left, right, leftMarks, rightMarks, rfl, rfl, hitem, hrest⟩ := h
      obtain ⟨values, hreads, hcaptured⟩ :=
        ih (fun i hi => hwell i (List.mem_cons_of_mem item hi)) hrest
      rw [List.append_nil] at hitem
      have hslot := Item.slot_of_passage hitem
      -- The groups of the rest find the marks of this item among the earlier ones.
      have hlater (earlier : List Mark) (hearlier : ∀ mark ∈ earlier, mark.slot < 2 * (n + 1)) :
          ((rest.flatMap Item.groupNames).zipIdx (n + item.groupNames.length)).filterMap
            (fun (name, i) => Matcher.captured? (name, groupText? (before ++ (left ++ right))
              (rightMarks ++ leftMarks ++ earlier) (i + 1)) (i + 1)) =
            bindings (rest.filterMap Item.name?) values := by
        have hmarks := hcaptured (leftMarks ++ earlier) (by
          intro mark hmark
          rcases List.mem_append.mp hmark with hown | hmem
          · exact (hslot mark hown).2
          · have hless := hearlier mark hmem
            omega)
        rwa [List.append_assoc before, ← List.append_assoc rightMarks] at hmarks
      cases hname : item.name? with
      | none =>
          refine ⟨values, .silent hname (Item.accepts_passage.mp ⟨_, hitem⟩) hreads, ?_⟩
          intro earlier hearlier
          have hrow := hlater earlier hearlier
          rw [Item.groupNames_eq_nil hname] at hrow
          rw [List.flatMap_cons, Item.groupNames_eq_nil hname, List.filterMap_cons_none hname]
          exact hrow
      | some name =>
          obtain rfl := Item.eq_placeholder hname
          obtain ⟨quoting, value, hallows, rfl, rfl⟩ := placeholderPassage_iff.mp hitem
          refine ⟨(quoting, value) :: values, .placeholder hallows hreads, ?_⟩
          intro earlier hearlier
          rw [List.flatMap_cons, List.zipIdx_append, List.filterMap_append,
            hlater earlier hearlier, List.filterMap_cons_some hname]
          rw [captured?_placeholder (hwell _ List.mem_cons_self)]
          · rfl
          · intro index hfirst hlast
            rw [List.append_assoc, groupText?_append_right, ← List.append_assoc]
            · exact groupText?_marks hearlier hfirst
            · intro mark hmark
              have hlength : (Item.placeholder name).groupNames.length = 3 := rfl
              have hslot := slot_of_rowPassage hrest mark hmark
              rw [hlength] at hslot
              omega

variable {values : List (Quoting × List Char)}

theorem ReadsAs.reads (h : ReadsAs row before text values) : Reads row before text := by
  induction h with
  | nil => rfl
  | placeholder allowed others ih =>
      have hmarks := placeholderPassage_iff (n := 0).mpr ⟨_, _, allowed, rfl, rfl⟩
      exact ⟨_, _, rfl, Item.accepts_passage.mp ⟨_, hmarks⟩, ih⟩
  | silent hname hpiece others ih => exact ⟨_, _, rfl, hpiece, ih⟩

/-- There is one value for each placeholder. -/
theorem ReadsAs.length_eq (h : ReadsAs row before text values) :
    values.length = (row.filterMap Item.name?).length := by
  induction h with
  | nil => rfl
  | placeholder allowed others ih =>
      rw [List.length_cons, ih]
      rfl
  | silent hname hpiece others ih => rw [ih, List.filterMap_cons_none hname]

/-! The arguments of a text. -/

theorem captured_zipIdx (names : List (Option String)) (text : List Char) (marks : List Mark) :
    Matcher.captured (names.zipIdx.map fun (name, i) => (name, groupText? text marks (i + 1))) =
      names.zipIdx.filterMap fun (name, i) =>
        Matcher.captured? (name, groupText? text marks (i + 1)) (i + 1) := by
  rw [Matcher.captured]
  generalize 0 = n
  induction names generalizing n with
  | nil => rfl
  | cons name names ih =>
      simp only [List.zipIdx_cons, List.map_cons, List.filterMap_cons, ih]

theorem map_fst_bindings {names : List (List Char)} (hlength : values.length = names.length) :
    (bindings names values).map (·.1) = names.map String.ofList := by
  have hfst := List.map_fst_zip (Nat.le_of_eq hlength.symm)
  rw [bindings, List.map_map]
  conv => rhs; rw [← hfst, List.map_map]
  rfl

theorem nodup_bindings {names : List (List Char)} (hnames : names.Nodup)
    (hlength : values.length = names.length) : ((bindings names values).map (·.1)).Nodup := by
  rw [map_fst_bindings hlength]
  exact hnames.map fun a b h => String.ofList_injective h

section Matching

variable {pattern text : String} {limit : Option Nat}
  (hnodup : (placeholderNames pattern.toList).Nodup)
  (hdigit : ∀ name ∈ placeholderNames pattern.toList, ∀ c ∈ name.head?, c.isDigit = false)

include hnodup in
theorem distinct_groupNames_items : Distinct ((items pattern.toList).flatMap Item.groupNames) := by
  rw [← filterMap_name?_items] at hnodup
  exact distinct_groupNames hnodup wellFormed_of_mem_items

include hdigit in
theorem denotes_items :
    Denotes ((items pattern.toList).flatMap Item.source) 0
      ((items pattern.toList).flatMap Item.groupNames) 8 (rowPassage 0 (items pattern.toList)) := by
  rw [← filterMap_name?_items] at hdigit
  exact denotes_flatMap_source wellFormed_of_mem_items hdigit 0

include hnodup hdigit

theorem isDegraded_toRegex :
    (Matcher.ofSourceWithin none (turnipNotation.toRegex pattern)).isDegraded = false := by
  rw [ofSourceWithin_toRegex]
  exact (denotes_items hdigit).isDegraded_wholeMatcher (distinct_groupNames_items hnodup)
    (by decide)

/-- A pattern matches the texts that can be read as its items. -/
theorem isMatch_of_readsAs
    (hdegraded : (Matcher.ofSourceWithin limit (turnipNotation.toRegex pattern)).isDegraded = false)
    (hreads : ReadsAs (items pattern.toList) [] text.toList values) :
    (Matcher.ofSourceWithin limit (turnipNotation.toRegex pattern)).isMatch text = true := by
  rw [ofSourceWithin_toRegex] at hdegraded ⊢
  exact ((denotes_items hdigit).isMatch_wholeMatcher (distinct_groupNames_items hnodup)
    (by decide) limit text).mpr ⟨hdegraded, accepts_rowPassage.mpr hreads.reads⟩

/-- The arguments of a text that is matched are the values in one way of reading it. -/
theorem arguments?_of_isMatch
    (hmatch : (Matcher.ofSourceWithin limit (turnipNotation.toRegex pattern)).isMatch text = true) :
    ∃ values, ReadsAs (items pattern.toList) [] text.toList values ∧
      (Matcher.ofSourceWithin limit (turnipNotation.toRegex pattern)).arguments? text =
        some (bindings (placeholderNames pattern.toList) values) := by
  rw [ofSourceWithin_toRegex] at hmatch ⊢
  obtain ⟨marks, hrow, harguments⟩ := (denotes_items hdigit).arguments?_wholeMatcher
    (distinct_groupNames_items hnodup) (by decide) hmatch
  obtain ⟨values, hreads, hcaptured⟩ := readsAs_of_rowPassage wellFormed_of_mem_items hrow
  have hbindings := hcaptured [] (by simp)
  rw [List.append_nil, List.nil_append, ← captured_zipIdx, filterMap_name?_items] at hbindings
  have hlength := hreads.length_eq
  rw [filterMap_name?_items] at hlength
  refine ⟨values, hreads, ?_⟩
  rw [harguments, Matcher.argumentsOf_eq_captured, hbindings]
  rw [hbindings]
  exact nodup_bindings hnodup hlength

end Matching

/-! Patterns of placeholders and characters. -/

/-- Whether an item is a placeholder or a character. -/
def Item.IsStrict : Item → Prop
  | .char _ => True
  | .placeholder _ => True
  | .optional .. => False
  | .choice .. => False

/-- How a value is written that begins with a character. -/
def Quoting.ofChar (c : Char) : Quoting :=
  if c = '"' then .double else if c = '\'' then .single else .bare

theorem Quoting.head?_written {quoting : Quoting} (h : quoting.Allows before value after) :
    (quoting.written value ++ after).head?.map ofChar = some quoting := by
  cases quoting with
  | double => rfl
  | single => rfl
  | bare =>
      obtain ⟨c, others, rfl⟩ := List.exists_cons_of_ne_nil h.1
      have hc : Unicode.isWord c = true := h.2.1 c List.mem_cons_self
      have hdouble : c ≠ '"' := by
        rintro rfl
        exact absurd hc (by decide)
      have hsingle : c ≠ '\'' := by
        rintro rfl
        exact absurd hc (by decide)
      simp [written, quotes, ofChar, hdouble, hsingle]

theorem takeWhile_eq_nil {p : Char → Bool} {text : List Char} (h : text.head?.any p = false) :
    text.takeWhile p = [] := by
  cases text with
  | nil => rfl
  | cons c text => exact List.takeWhile_cons_of_neg (by simpa using h)

/-- The value of a placeholder is read off the text behind the items before. -/
theorem Quoting.eq_of_written_append {quoting other : Quoting} {found behind : List Char}
    (hvalue : quoting.Allows before value after) (hfound : other.Allows before found behind)
    (h : quoting.written value ++ after = other.written found ++ behind) :
    quoting = other ∧ value = found ∧ after = behind := by
  obtain rfl : quoting = other := by
    have hhead := head?_written hvalue
    rw [h, head?_written hfound] at hhead
    exact (Option.some.inj hhead).symm
  refine ⟨rfl, ?_⟩
  cases quoting with
  | double =>
      apply Step.append_cons_inj_of_not_mem hvalue.2 hfound.2
      simpa [written, quotes] using h
  | single =>
      apply Step.append_cons_inj_of_not_mem hvalue.2 hfound.2
      simpa [written, quotes] using h
  | bare =>
      apply Step.append_inj_of_takeWhile_eq hvalue.2.1 hfound.2.1
      · rw [takeWhile_eq_nil hvalue.2.2.2, takeWhile_eq_nil hfound.2.2.2]
      · simpa [written, quotes] using h

/-- A text is read in one way at most. -/
theorem ReadsAs.unique {found : List (Quoting × List Char)} (hstrict : ∀ i ∈ row, i.IsStrict)
    (h : ReadsAs row before text values) (hfound : ReadsAs row before text found) :
    values = found := by
  generalize hother : text = other at hfound
  induction h generalizing other found with
  | nil =>
      cases hfound with
      | nil => rfl
  | placeholder hallowed hothers ih =>
      cases hfound with
      | placeholder hallowed' hothers' =>
          obtain ⟨rfl, rfl, rfl⟩ := Quoting.eq_of_written_append hallowed hallowed' hother
          rw [ih (fun i hi => hstrict i (List.mem_cons_of_mem _ hi)) _ rfl hothers']
      | silent hname => exact absurd hname (by simp [Item.name?])
  | @silent item before piece after rest values hname hpiece hothers ih =>
      have hitem := hstrict item List.mem_cons_self
      cases item with
      | char c =>
          cases hfound with
          | silent hname' hpiece' hothers' =>
              obtain rfl : piece = [c] := hpiece
              obtain rfl : _ = [c] := hpiece'
              obtain rfl := List.append_cancel_left hother
              exact ih (fun i hi => hstrict i (List.mem_cons_of_mem _ hi)) _ rfl hothers'
      | placeholder name => exact absurd hname (by simp [Item.name?])
      | optional lead text trail => exact hitem.elim
      | choice left right => exact hitem.elim

end Stepwise.Turnip
