import Mathlib.Logic.Basic
import Stepwise.Regex.Search

/-!
# What an expression matches

A passage tells which pieces of a text are matched, given what stands before and behind
them, and which places are remembered on the way. Expressions have passages by their
structure. Main statements: passages in sequence are associative, and repetitions add up.
-/

namespace Stepwise.Regex

/-- Which pieces are matched between the text before and the text behind them, and with
which marks, the last one first. -/
abbrev Passage := (before piece after : List Char) → (marks : List Mark) → Prop

namespace Passage

/-- The passage of the empty piece. -/
def nil : Passage :=
  fun _ piece _ marks => piece = [] ∧ marks = []

def text (cs : List Char) : Passage :=
  fun _ piece _ marks => piece = cs ∧ marks = []

def oneOf (s : CharSet) : Passage :=
  fun _ piece _ marks => (∃ c, s.has c = true ∧ piece = [c]) ∧ marks = []

/-- The empty passage at places where an assertion holds. -/
def look (l : Look) : Passage :=
  fun before piece after marks =>
    piece = [] ∧ marks = [] ∧ l.holds before.getLast? after.head? = true

/-- The empty passage that remembers its place under a number. -/
def mark (slot : Nat) : Passage :=
  fun before piece _ marks => piece = [] ∧ marks = [⟨slot, before.length⟩]

/-- One passage behind another one. -/
def andThen (R S : Passage) : Passage :=
  fun before piece after marks =>
    ∃ left right leftMarks rightMarks,
      piece = left ++ right ∧ marks = rightMarks ++ leftMarks ∧
        R before left (right ++ after) leftMarks ∧ S (before ++ left) right after rightMarks

/-- One passage or another one. -/
def either (R S : Passage) : Passage :=
  fun before piece after marks => R before piece after marks ∨ S before piece after marks

/-- A passage whose first and last place are remembered. -/
def group (index : Nat) (R : Passage) : Passage :=
  (mark (2 * index)).andThen (R.andThen (mark (2 * index + 1)))

/-- A passage a number of times. -/
def times (R : Passage) : Nat → Passage
  | 0 => nil
  | k + 1 => R.andThen (R.times k)

/-- A passage some number of times, of those that a condition allows. -/
def timesOf (allowed : Nat → Prop) (R : Passage) : Passage :=
  fun before piece after marks => ∃ k, allowed k ∧ R.times k before piece after marks

theorem ext {R S : Passage}
    (h : ∀ before piece after marks, R before piece after marks ↔ S before piece after marks) :
    R = S := by
  funext before piece after marks
  exact propext (h before piece after marks)

@[simp] theorem nil_andThen (R : Passage) : nil.andThen R = R := by
  apply ext
  intro before piece after marks
  constructor
  · intro h
    obtain ⟨left, right, leftMarks, rightMarks, rfl, rfl, ⟨rfl, rfl⟩, hR⟩ := h
    simpa using hR
  · intro hR
    exact ⟨[], piece, [], marks, rfl, by simp, ⟨rfl, rfl⟩, by simpa using hR⟩

@[simp] theorem andThen_nil (R : Passage) : R.andThen nil = R := by
  apply ext
  intro before piece after marks
  constructor
  · intro h
    obtain ⟨left, right, leftMarks, rightMarks, rfl, rfl, hR, ⟨rfl, rfl⟩⟩ := h
    simpa using hR
  · intro hR
    exact ⟨piece, [], marks, [], by simp, rfl, by simpa using hR, ⟨rfl, rfl⟩⟩

theorem andThen_assoc (R S T : Passage) :
    (R.andThen S).andThen T = R.andThen (S.andThen T) := by
  apply ext
  intro before piece after marks
  constructor
  · intro h
    obtain ⟨_, third, _, thirdMarks, rfl, rfl,
      ⟨first, second, firstMarks, secondMarks, rfl, rfl, hR, hS⟩, hT⟩ := h
    refine ⟨first, second ++ third, firstMarks, thirdMarks ++ secondMarks, by simp, by simp,
      by simpa using hR, second, third, secondMarks, thirdMarks, rfl, rfl, hS, by simpa using hT⟩
  · intro h
    obtain ⟨first, _, firstMarks, _, rfl, rfl, hR,
      second, third, secondMarks, thirdMarks, rfl, rfl, hS, hT⟩ := h
    refine ⟨first ++ second, third, secondMarks ++ firstMarks, thirdMarks, by simp, by simp,
      ⟨first, second, firstMarks, secondMarks, rfl, rfl, by simpa using hR, hS⟩,
      by simpa using hT⟩

theorem group_iff (index : Nat) (R : Passage) (before piece after : List Char)
    (marks : List Mark) :
    R.group index before piece after marks ↔
      ∃ inner, R before piece after inner ∧
        marks = ⟨2 * index + 1, (before ++ piece).length⟩ ::
          (inner ++ [⟨2 * index, before.length⟩]) := by
  constructor
  · intro h
    obtain ⟨_, _, _, _, rfl, rfl, ⟨rfl, rfl⟩, piece, _, inner, _, rfl, rfl, hR, ⟨rfl, rfl⟩⟩ := h
    exact ⟨inner, by simpa using hR, by simp⟩
  · intro h
    obtain ⟨inner, hR, rfl⟩ := h
    refine ⟨[], piece, [⟨2 * index, before.length⟩],
      ⟨2 * index + 1, (before ++ piece).length⟩ :: inner, rfl, by simp, ⟨rfl, rfl⟩, ?_⟩
    exact ⟨piece, [], inner, [⟨2 * index + 1, (before ++ piece).length⟩], by simp, rfl,
      by simpa using hR, rfl, by simp⟩

theorem text_append (cs ds : List Char) : text (cs ++ ds) = (text cs).andThen (text ds) := by
  apply ext
  intro before piece after marks
  constructor
  · intro h
    obtain ⟨rfl, rfl⟩ := h
    exact ⟨cs, ds, [], [], rfl, rfl, ⟨rfl, rfl⟩, ⟨rfl, rfl⟩⟩
  · intro h
    obtain ⟨_, _, _, _, rfl, rfl, ⟨rfl, rfl⟩, ⟨rfl, rfl⟩⟩ := h
    exact ⟨rfl, rfl⟩

theorem oneOf_single (c : Char) : oneOf (.single c) = text [c] := by
  apply ext
  simp [oneOf, text, CharSet.has_single]

theorem text_nil : text [] = nil :=
  rfl

@[simp] theorem times_one (R : Passage) : R.times 1 = R :=
  andThen_nil R

theorem times_add (R : Passage) (m n : Nat) :
    R.times (m + n) = (R.times m).andThen (R.times n) := by
  induction m with
  | zero => rw [Nat.zero_add, times, nil_andThen]
  | succ m ih => rw [Nat.succ_add, times, ih, times, andThen_assoc]

/-- Some times in front leave the remaining ones to be allowed. -/
theorem times_andThen_timesOf (allowed : Nat → Prop) (R : Passage) (m : Nat) :
    (R.times m).andThen (R.timesOf allowed) = R.timesOf fun k => m ≤ k ∧ allowed (k - m) := by
  apply ext
  intro before piece after marks
  constructor
  · intro h
    obtain ⟨left, right, leftMarks, rightMarks, hpiece, hmarks, hR, k, hk, hS⟩ := h
    refine ⟨m + k, ⟨Nat.le_add_right m k, by rwa [Nat.add_sub_cancel_left]⟩, ?_⟩
    rw [times_add]
    exact ⟨left, right, leftMarks, rightMarks, hpiece, hmarks, hR, hS⟩
  · intro h
    obtain ⟨k, ⟨hle, hk⟩, hR⟩ := h
    rw [← Nat.add_sub_of_le hle, times_add] at hR
    obtain ⟨left, right, leftMarks, rightMarks, hpiece, hmarks, hR, hS⟩ := hR
    exact ⟨left, right, leftMarks, rightMarks, hpiece, hmarks, hR, k - m, hk, hS⟩

/-- A repetition without limits is empty, or once and then again without limits. -/
theorem timesOf_true (R : Passage) :
    R.timesOf (fun _ => True) = nil.either (R.andThen (R.timesOf fun _ => True)) := by
  apply ext
  intro before piece after marks
  constructor
  · intro h
    obtain ⟨k, -, hR⟩ := h
    cases k with
    | zero => exact Or.inl hR
    | succ k =>
        obtain ⟨left, right, leftMarks, rightMarks, hpiece, hmarks, hR, hS⟩ := hR
        exact Or.inr ⟨left, right, leftMarks, rightMarks, hpiece, hmarks, hR, k, trivial, hS⟩
  · intro h
    rcases h with hnil | ⟨left, right, leftMarks, rightMarks, hpiece, hmarks, hR, k, -, hS⟩
    · exact ⟨0, trivial, hnil⟩
    · exact ⟨k + 1, trivial, left, right, leftMarks, rightMarks, hpiece, hmarks, hR, hS⟩

/-- A repetition up to a number of times is empty, or once and then up to one time less. -/
theorem timesOf_le_succ (R : Passage) (n : Nat) :
    R.timesOf (· ≤ n + 1) = nil.either (R.andThen (R.timesOf (· ≤ n))) := by
  apply ext
  intro before piece after marks
  constructor
  · intro h
    obtain ⟨k, hk, hR⟩ := h
    cases k with
    | zero => exact Or.inl hR
    | succ k =>
        obtain ⟨left, right, leftMarks, rightMarks, hpiece, hmarks, hR, hS⟩ := hR
        exact Or.inr ⟨left, right, leftMarks, rightMarks, hpiece, hmarks, hR, k,
          Nat.le_of_succ_le_succ hk, hS⟩
  · intro h
    rcases h with hnil | ⟨left, right, leftMarks, rightMarks, hpiece, hmarks, hR, k, hk, hS⟩
    · exact ⟨0, Nat.zero_le _, hnil⟩
    · exact ⟨k + 1, Nat.succ_le_succ hk, left, right, leftMarks, rightMarks, hpiece, hmarks,
        hR, hS⟩

theorem timesOf_le_zero (R : Passage) : R.timesOf (· ≤ 0) = nil := by
  apply ext
  intro before piece after marks
  constructor
  · intro h
    obtain ⟨k, hk, hR⟩ := h
    rw [Nat.le_zero.mp hk] at hR
    exact hR
  · exact fun h => ⟨0, Nat.le_refl 0, h⟩

/-- The numbers of times that a repetition allows. The lower limit counts more. -/
def allowedTimes (min : Nat) (max : Option Nat) (k : Nat) : Prop :=
  min ≤ k ∧ ∀ limit ∈ max, k ≤ Nat.max min limit

/-- A limited repetition is as often as it has to be and then up to the other times. -/
theorem timesOf_limited (R : Passage) (min max : Nat) :
    R.timesOf (allowedTimes min (some max)) =
      (R.times min).andThen (R.timesOf (· ≤ max - min)) := by
  rw [times_andThen_timesOf]
  congr
  funext k
  have hlimit : Nat.max min max = min + (max - min) := by
    change (if min ≤ max then max else min) = min + (max - min)
    split <;> omega
  simp only [allowedTimes, Option.mem_def, Option.some.injEq, forall_eq', eq_iff_iff, hlimit]
  omega

theorem timesOf_unlimited (R : Passage) (min : Nat) :
    R.timesOf (allowedTimes min none) = (R.times min).andThen (R.timesOf fun _ => True) := by
  rw [times_andThen_timesOf]
  congr
  funext k
  simp [allowedTimes]

end Passage

def Expression.passage : Expression → Passage
  | .empty => .nil
  | .literal cs => .text cs
  | .set _ s => .oneOf s
  | .look l => .look l
  | .group index body => body.passage.group index
  | .repeated min max _ body => body.passage.timesOf (Passage.allowedTimes min max)
  | .cat left right => left.passage.andThen right.passage
  | .alt left right => left.passage.either right.passage

end Stepwise.Regex
