/-!
# Ranges of code points

A property of characters is kept as the list of its ranges in ascending order, none of
which touches the next one. Looking a character up stops at the first range beyond it.
Sets of characters are put together range by range.
-/

namespace Stepwise.Unicode

/-- Ranges of code points, both ends included, in ascending order. -/
abbrev Ranges := List (Nat × Nat)

namespace Ranges

def contains : Ranges → Nat → Bool
  | [], _ => false
  | (lo, hi) :: rest, n =>
      if n < lo then false
      else if n ≤ hi then true
      else contains rest n

def has (ranges : Ranges) (c : Char) : Bool :=
  ranges.contains c.toNat

/-- Joins ranges that overlap or touch with the range before them. The ranges are in the
order of their first code points. -/
def join : Ranges → Ranges
  | [] => []
  | [r] => [r]
  | (lo, hi) :: (lo', hi') :: rest =>
      if lo' ≤ hi + 1 then join ((lo, max hi hi') :: rest)
      else (lo, hi) :: join ((lo', hi') :: rest)
termination_by ranges => ranges.length

/-- Whether a range begins no later than another one. -/
def startsFirst (r s : Nat × Nat) : Bool :=
  r.1 ≤ s.1

def arranged (ranges : Ranges) : Ranges :=
  join (ranges.mergeSort startsFirst)

def union (r s : Ranges) : Ranges :=
  join (r.merge s startsFirst)

def unionAll : List Ranges → Ranges
  | [] => []
  | r :: rest => r.union (unionAll rest)

/-- The code point of the next character. Surrogates are no characters. -/
def after (n : Nat) : Nat :=
  if n = 0xd7ff then 0xe000 else n + 1

/-- The code point of the character before. -/
def before (n : Nat) : Nat :=
  if n = 0xe000 then 0xd7ff else n - 1

theorem before_lt {n : Nat} (h : 0 < n) : before n < n := by
  simp only [before]
  split <;> omega

def lastPoint : Nat := 0x10ffff

/-- The characters from `start` on that are in none of the ranges. -/
def complFrom (start : Nat) : Ranges → Ranges
  | [] => if start ≤ lastPoint then [(start, lastPoint)] else []
  | (lo, hi) :: rest =>
      if start < lo then (start, before lo) :: complFrom (after hi) rest
      else complFrom (after hi) rest

def compl (r : Ranges) : Ranges :=
  complFrom 0 r

def inter (r s : Ranges) : Ranges :=
  (r.compl.union s.compl).compl

def diff (r s : Ranges) : Ranges :=
  r.inter s.compl

def symmDiff (r s : Ranges) : Ranges :=
  (r.union s).diff (r.inter s)

/-- A character found in the ranges lies between the ends of one of them. -/
theorem exists_of_contains {ranges : Ranges} {n : Nat}
    (h : ranges.contains n = true) : ∃ r ∈ ranges, r.1 ≤ n ∧ n ≤ r.2 := by
  induction ranges with
  | nil => simp [contains] at h
  | cons r rest ih =>
      obtain ⟨lo, hi⟩ := r
      simp only [contains] at h
      split at h
      · exact absurd h (by simp)
      · split at h
        · exact ⟨(lo, hi), by simp, by omega, by omega⟩
        · obtain ⟨r, hr, hn⟩ := ih h
          exact ⟨r, List.mem_cons_of_mem _ hr, hn⟩

end Ranges

end Stepwise.Unicode
