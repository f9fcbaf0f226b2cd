import Stepwise.Unicode.Ranges

/-!
# Ranges of octets

The UTF-8 forms of a range of characters, as sequences of ranges of octets. A sequence
stands for all forms of which every octet lies in the range at its place, so a range of
characters is cut where its forms have different lengths or differ in more than that.
Main statement: every sequence has at most four ranges.
-/

namespace Stepwise.Regex

/-- The octets between two octets, both included. -/
abbrev OctetRange := Nat × Nat

def octets (n : Nat) : List Nat :=
  (String.utf8EncodeChar (Char.ofNat n)).map UInt8.toNat

/-- Where the range from `first` to `last` is cut so that the lower `digits` digits in base
sixty-four run through all values in at least one part. Each of the octets behind the first
one stands for such a digit. -/
def cutAtDigits? (first last digits : Nat) : Option Nat :=
  let unit := Nat.pow 64 digits
  if first / unit = last / unit then none
  else if first % unit ≠ 0 then some ((first / unit + 1) * unit)
  else if last % unit ≠ unit - 1 then some (last / unit * unit)
  else none

/-- Where a range of characters is cut, if it has to be: around the surrogates, where the
forms get longer, or where an octet would not run through all of its values. -/
def cut? (first last : Nat) : Option Nat :=
  if first < 0xe000 ∧ 0xd7ff < last then some 0xe000
  else
    match [0x80, 0x800, 0x10000].find? (fun n => first < n ∧ n ≤ last) with
    | some n => some n
    | none => if last < 0x80 then none else [1, 2, 3].findSome? (cutAtDigits? first last)

/-- The sequences of ranges of octets for the characters from `first` to `last`, in
ascending order. -/
def octetRanges (first last : Nat) : List (List OctetRange) :=
  match cut? first last with
  | some cut =>
      if h : first < cut ∧ cut ≤ last then
        have := h.1
        have : Unicode.Ranges.before cut < cut := Unicode.Ranges.before_lt (by omega)
        octetRanges first (Unicode.Ranges.before cut) ++ octetRanges cut last
      else []
  | none => if first ≤ last then [(octets first).zip (octets last)] else []
termination_by last - first

theorem length_of_mem_octetRanges {first last : Nat} {ranges : List OctetRange}
    (h : ranges ∈ octetRanges first last) : ranges.length ≤ 4 := by
  fun_induction octetRanges first last with
  | case1 first last cut _ _ _ _ ihl ihr =>
      rw [List.mem_append] at h
      exact h.elim ihl ihr
  | case2 => simp at h
  | case3 first last _ _ =>
      rw [List.mem_singleton.mp h, List.length_zip, octets, List.length_map]
      exact Nat.le_trans (Nat.min_le_left _ _)
        (String.length_utf8EncodeChar .. ▸ Char.utf8Size_le_four _)
  | case4 => simp at h

end Stepwise.Regex
