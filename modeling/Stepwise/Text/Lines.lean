/-!
# Lines of a text
-/

namespace Stepwise.Text

/-- Cuts a text at its line breaks. A text without line breaks is one line. -/
def cutLines : List Char → List (List Char)
  | [] => [[]]
  | c :: rest =>
      if c = '\n' then [] :: cutLines rest
      else
        match cutLines rest with
        | [] => [[c]]
        | line :: others => (c :: line) :: others

def lines (text : String) : List String :=
  (cutLines text.toList).map String.ofList

theorem cutLines_ne_nil (text : List Char) : cutLines text ≠ [] := by
  cases text with
  | nil => simp [cutLines]
  | cons c rest =>
      simp only [cutLines]
      split
      · simp
      · split <;> simp

end Stepwise.Text
