/-!
# Removing escapes

Reading from left to right, a backslash and the character behind it are a pair. The
backslash is removed from the pairs of given characters and from no others.
-/

namespace Stepwise

/-- Removes the backslash before each of the given characters. -/
def unescape (chars : List Char) : List Char → List Char
  | [] => []
  | [c] => [c]
  | c :: d :: rest =>
      if c = '\\' then
        if d ∈ chars then d :: unescape chars rest else c :: d :: unescape chars rest
      else c :: unescape chars (d :: rest)

theorem unescape_cons {chars : List Char} {c : Char} (hc : c ≠ '\\') (rest : List Char) :
    unescape chars (c :: rest) = c :: unescape chars rest := by
  cases rest with
  | nil => rfl
  | cons d rest => rw [unescape, if_neg hc]

/-- A text without backslashes stays as it is. -/
theorem unescape_eq_self {chars text : List Char} (h : '\\' ∉ text) :
    unescape chars text = text := by
  fun_induction unescape chars text with
  | case1 => rfl
  | case2 => rfl
  | case3 d rest hd ih => simp at h
  | case4 d rest hd ih => simp at h
  | case5 c d rest hc ih =>
      rw [ih fun hmem => h (List.mem_cons_of_mem c hmem)]

end Stepwise
