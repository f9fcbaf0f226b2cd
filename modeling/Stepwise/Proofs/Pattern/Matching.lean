import Mathlib.Data.List.Nodup
import Stepwise.Pattern.Matcher
import Stepwise.Proofs.Regex.Acceptance
import Stepwise.Proofs.Regex.Weights

/-!
# Matching whole texts

An expression between `^` and `$` makes a matcher that matches whole texts. Main statements:
the matcher is only degraded because of its size, which is bounded by what its trees take, it
matches the texts that the expression accepts, its arguments are what the groups remembered in one
way of matching, and groups whose arguments have different names all count.
-/

namespace Stepwise

namespace Matcher

/-- The argument that a group captured, if it took part in the match. -/
def captured? (group : Option String × Option (List Char)) (index : Nat) :
    Option (String × String) :=
  group.2.map fun text => (argumentName group.1 index, String.ofList text)

/-- The arguments that groups captured, also those with the same names. -/
def captured (groups : List (Option String × Option (List Char))) : List (String × String) :=
  groups.zipIdx.filterMap fun (group, i) => captured? group (i + 1)

def numbered (values : List (List Char)) : List (String × String) :=
  values.zipIdx.map fun (value, i) => (toString (i + 1), String.ofList value)

theorem addArgument_of_not_mem {arguments : List (String × String)} {argument : String × String}
    (h : argument.1 ∉ arguments.map (·.1)) :
    addArgument arguments argument = arguments ++ [argument] := by
  rw [addArgument, if_neg]
  intro hany
  obtain ⟨other, hother, hname⟩ := List.any_eq_true.mp hany
  exact h (List.mem_map.mpr ⟨other, hother, of_decide_eq_true hname⟩)

/-- Arguments with different names are all kept. -/
theorem foldl_addArgument (l : List (String × String)) (arguments : List (String × String))
    (h : ((arguments ++ l).map (·.1)).Nodup) : l.foldl addArgument arguments = arguments ++ l := by
  induction l generalizing arguments with
  | nil => exact (List.append_nil arguments).symm
  | cons argument l ih =>
      have hnew : argument.1 ∉ arguments.map (·.1) := by
        rw [List.map_append, List.map_cons] at h
        exact fun hmem => List.disjoint_of_nodup_append h hmem List.mem_cons_self
      rw [List.foldl_cons, addArgument_of_not_mem hnew, ih, List.append_assoc,
        List.singleton_append]
      rwa [List.append_assoc, List.singleton_append]

theorem argumentsOf_eq_foldl (groups : List (Option String × Option (List Char))) :
    argumentsOf groups = (captured groups).foldl addArgument [] := by
  rw [captured, List.foldl_filterMap, argumentsOf]
  congr
  funext arguments entry
  obtain ⟨⟨name, text⟩, i⟩ := entry
  cases text with
  | none => rfl
  | some text => rfl

/-- Groups whose arguments have different names all count. -/
theorem argumentsOf_eq_captured {groups : List (Option String × Option (List Char))}
    (h : ((captured groups).map (·.1)).Nodup) : argumentsOf groups = captured groups := by
  rw [argumentsOf_eq_foldl]
  exact foldl_addArgument (captured groups) [] h

theorem toString_injective {m n : Nat} (h : toString m = toString n) : m = n := by
  have hdigits := congrArg String.toList h
  rw [Nat.toString_eq_ofList_toDigits, Nat.toString_eq_ofList_toDigits, String.toList_ofList,
    String.toList_ofList] at hdigits
  have hvalue := congrArg (fun digits => Nat.ofDigitChars 10 digits 0) hdigits
  simpa [Nat.ofDigitChars_toDigits] using hvalue

theorem nodup_numbered (values : List (List Char)) : ((numbered values).map (·.1)).Nodup := by
  have hkeys : (numbered values).map (·.1) =
      (List.range values.length).map fun i => toString (i + 1) := by
    rw [numbered, List.map_map, List.range_eq_range', ← List.zipIdx_map_snd 0 values,
      List.map_map]
    rfl
  rw [hkeys]
  exact List.nodup_range.map fun i j h => Nat.succ.inj (toString_injective h)

/-- Groups without names are called by their numbers. -/
theorem argumentsOf_unnamed (values : List (List Char)) :
    argumentsOf (values.map fun value => (none, some value)) = numbered values := by
  have hcaptured :
      captured (values.map fun value => (none, some value)) = numbered values := by
    rw [captured, numbered, List.zipIdx_map, List.filterMap_map, ← List.filterMap_eq_map]
    rfl
  rw [argumentsOf_eq_captured, hcaptured]
  rw [hcaptured]
  exact nodup_numbered values

end Matcher

namespace Regex

/-! What groups remember. -/

variable {left right : List Mark} {text : List Char} {index : Nat}

theorem lastMark?_append (left right : List Mark) (slot : Nat) :
    lastMark? (left ++ right) slot = (lastMark? left slot).or (lastMark? right slot) := by
  rw [lastMark?, List.find?_append]
  cases hleft : left.find? (·.slot = slot) with
  | none => simp [lastMark?, hleft]
  | some mark => simp [lastMark?, hleft]

theorem lastMark?_eq_none {slot : Nat} (h : ∀ mark ∈ left, mark.slot ≠ slot) :
    lastMark? left slot = none := by
  rw [lastMark?, List.find?_eq_none.mpr, Option.map_none]
  exact fun mark hmark => by simpa using h mark hmark

/-- A group that remembered no place has no text. -/
theorem groupText?_eq_none {marks : List Mark} (h : ∀ mark ∈ marks, mark.slot ≠ 2 * index) :
    groupText? text marks index = none := by
  rw [groupText?, lastMark?_eq_none h]

/-- What was remembered earlier does not count. -/
theorem groupText?_append_left {value : List Char} (h : groupText? text left index = some value) :
    groupText? text (left ++ right) index = some value := by
  rw [groupText?, lastMark?_append, lastMark?_append]
  rw [groupText?] at h
  cases hfirst : lastMark? left (2 * index) with
  | none => simp [hfirst] at h
  | some first =>
      cases hlast : lastMark? left (2 * index + 1) with
      | none => simp [hfirst, hlast] at h
      | some last => simpa [hfirst, hlast] using h

/-- What other groups remember does not count. -/
theorem groupText?_append_right (h : ∀ mark ∈ left, 2 * index + 1 < mark.slot) :
    groupText? text (left ++ right) index = groupText? text right index := by
  have hfirst : lastMark? left (2 * index) = none :=
    lastMark?_eq_none fun mark hmark => by
      have hslot := h mark hmark
      omega
  have hlast : lastMark? left (2 * index + 1) = none :=
    lastMark?_eq_none fun mark hmark => by
      have hslot := h mark hmark
      omega
  rw [groupText?, lastMark?_append, lastMark?_append, hfirst, hlast, Option.none_or,
    Option.none_or, groupText?]

/-- The text of a group is what stands between its two places. -/
theorem groupText?_pair (before value after : List Char) (index : Nat) :
    groupText? (before ++ value ++ after)
      [⟨2 * index + 1, (before ++ value).length⟩, ⟨2 * index, before.length⟩] index =
        some value := by
  simp [groupText?, lastMark?]

/-! Matchers of whole texts. -/

/-- The matcher of an expression that has to match the whole text, maybe within a number of
bytes. -/
def wholeMatcher (limit : Option Nat) (source : List Char) : Matcher :=
  .ofSourceWithin limit (String.ofList ('^' :: (source ++ ['$'])))

variable {source : List Char} {names : List (Option String)} {d : Nat} {R : Passage}

/-- The program of a matcher of whole texts, which is missing if it is too large. -/
theorem Denotes.regex_wholeMatcher (h : Denotes source 0 names d R) (hnames : Distinct names)
    (hd : d < depthLimit) :
    ∃ e : Expression,
      (∀ limit : Option Nat, (wholeMatcher limit source).regex =
        if limit.all e.fitsInto then some ⟨e.program, names⟩ else none) ∧
      (∀ text, (search e.program text.toArray).isSome = true ↔ R.Accepts [] text []) ∧
      ∀ text last, search e.program text.toArray = some last → R [] text [] last.marks := by
  obtain ⟨e, hcompile, haccepts, hmarks⟩ := h.compile_whole hnames hd
  refine ⟨e, fun limit => ?_, haccepts, hmarks⟩
  rw [wholeMatcher, Matcher.ofSourceWithin, String.toList_ofList, hcompile]
  split
  · rfl
  · rfl

theorem Denotes.isDegraded_wholeMatcher (h : Denotes source 0 names d R)
    (hnames : Distinct names) (hd : d < depthLimit) :
    (wholeMatcher none source).isDegraded = false := by
  obtain ⟨e, hregex, -, -⟩ := h.regex_wholeMatcher hnames hd
  rw [Matcher.isDegraded, hregex]
  rfl

/-- The bytes that a matcher of whole texts takes at most besides its expression. -/
def wholeBytes : Nat :=
  3 * (stateBytes + linkBytes) + Expression.aroundBytes

/-- A matcher of whole texts is degraded within less than its trees take at least, and not within
what they take at most. -/
theorem Spells.isDegraded_wholeMatcher {ts : List Tree} {least most : Nat}
    (h : Spells source 0 names ts) (hnames : Distinct names)
    (hdepth : ∀ t ∈ ts, t.depth .none < depthLimit) (hweigh : Tree.WeighInOrder ts least most)
    (limit : Nat) :
    (most + wholeBytes ≤ limit → (wholeMatcher (some limit) source).isDegraded = false) ∧
      (limit < least → (wholeMatcher (some limit) source).isDegraded = true) := by
  have hwhole := (spells_start 0).append (h.append (spells_end _))
  have hanchor (a : Anchor) := (Tree.weighs_anchor a).inOrder
  have hweight := (hanchor .lineStart).append (hweigh.append (hanchor .lineEnd))
  rw [List.append_nil, List.nil_append] at hwhole
  have hdeep : ∀ t ∈ [.anchor .lineStart] ++ (ts ++ [.anchor .lineEnd]),
      t.depth .none < depthLimit := by
    simp only [List.forall_mem_append, List.forall_mem_singleton]
    exact ⟨by decide, hdepth, by decide⟩
  obtain ⟨hfits, htooLarge⟩ := hwhole.compile_of_weighInOrder hnames hdeep hweight limit
  have hdegraded : (wholeMatcher (some limit) source).isDegraded =
      (compile (some limit) ('^' :: (source ++ ['$']))).toOption.isNone := by
    rw [wholeMatcher, Matcher.ofSourceWithin, String.toList_ofList]
    rfl
  rw [hdegraded]
  constructor
  · intro hlimit
    obtain ⟨regex, hregex⟩ := hfits (Nat.le_trans (by rw [wholeBytes]; omega) hlimit)
    have hsome : compile (some limit) ('^' :: (source ++ ['$'])) = .ok regex := hregex
    rw [hsome]
    rfl
  · intro hlimit
    have herror : compile (some limit) ('^' :: (source ++ ['$'])) = .error .tooLarge :=
      htooLarge (by omega)
    rw [herror]
    rfl

/-- A matcher of whole texts matches what its expression accepts, unless it is degraded. -/
theorem Denotes.isMatch_wholeMatcher (h : Denotes source 0 names d R) (hnames : Distinct names)
    (hd : d < depthLimit) (limit : Option Nat) (text : String) :
    (wholeMatcher limit source).isMatch text = true ↔
      (wholeMatcher limit source).isDegraded = false ∧ R.Accepts [] text.toList [] := by
  obtain ⟨e, hregex, haccepts, -⟩ := h.regex_wholeMatcher hnames hd
  rw [Matcher.isMatch, Matcher.isDegraded, hregex]
  by_cases hfits : limit.all e.fitsInto = true
  · simp only [hfits, ↓reduceIte, Option.any_some, Option.isNone_some, true_and, Regex.isMatch]
    exact haccepts text.toList
  · simp [hfits]

/-- The arguments of a text that matches are what the groups remembered in one way of matching
the whole text. -/
theorem Denotes.arguments?_wholeMatcher (h : Denotes source 0 names d R)
    (hnames : Distinct names) (hd : d < depthLimit) {limit : Option Nat}
    {text : String} (hmatch : (wholeMatcher limit source).isMatch text = true) :
    ∃ marks, R [] text.toList [] marks ∧
      (wholeMatcher limit source).arguments? text =
        some (Matcher.argumentsOf (names.zipIdx.map fun (name, i) =>
          (name, groupText? text.toList marks (i + 1)))) := by
  obtain ⟨e, hregex, -, hmarks⟩ := h.regex_wholeMatcher hnames hd
  rw [Matcher.isMatch, hregex] at hmatch
  rw [Matcher.arguments?, hregex]
  by_cases hfits : limit.all e.fitsInto = true
  · simp only [hfits, ↓reduceIte, Option.any_some, Regex.isMatch] at hmatch
    obtain ⟨last, hlast⟩ := Option.isSome_iff_exists.mp hmatch
    refine ⟨last.marks, hmarks text.toList last hlast, ?_⟩
    simp only [hfits, ↓reduceIte, Option.bind_some, captures?, hlast, Option.map_some]
  · simp [hfits] at hmatch

end Regex

end Stepwise
