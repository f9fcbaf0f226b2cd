import Stepwise.Regex.Program

/-!
# Searching

A search follows the threads of a program, the preferred ones first, and stops at
the first one that is accepted. What follows an instruction at a place of the text
does not depend on how it was reached, so no instruction is tried twice at the same
place. Main statement: the number of pairs that are still to be tried bounds the
search.
-/

namespace Stepwise.Regex

/-- A place of the text remembered under a number. -/
structure Mark where
  slot : Nat
  place : Nat
deriving DecidableEq, Repr

/-- A way through the program: the instruction that comes next, the place in the
text, and the places remembered so far, the last one first. -/
structure Thread where
  instruction : Nat
  place : Nat
  marks : List Mark
deriving DecidableEq, Repr

def charBefore (text : Array Char) (place : Nat) : Option Char :=
  if place = 0 then none else text[place - 1]?

/-- The threads that follow one, the preferred one first. -/
def Thread.next (program : Program) (text : Array Char) (t : Thread) : List Thread :=
  match program[t.instruction]? with
  | some (.consume s next) =>
      match text[t.place]? with
      | some c => if s.has c then [⟨next, t.place + 1, t.marks⟩] else []
      | none => []
  | some (.check look next) =>
      if look.holds (charBefore text t.place) text[t.place]? then
        [{ t with instruction := next }]
      else []
  | some (.mark slot next) => [⟨next, t.place, ⟨slot, t.place⟩ :: t.marks⟩]
  | some (.fork first second) =>
      [{ t with instruction := first }, { t with instruction := second }]
  | some (.jump next) => [{ t with instruction := next }]
  | some .accept => []
  | none => []

/-- Whether a thread has matched the whole expression. -/
def Thread.isAccepted (program : Program) (t : Thread) : Bool :=
  match program[t.instruction]? with
  | some .accept => true
  | _ => false

/-- For each instruction and each place whether it has been tried, row by row. What has
been tried is not zero. -/
abbrev Tried := ByteArray

/-- A number of entries that have not been tried. -/
def untried : Nat → Tried
  | 0 => .empty
  | n + 1 =>
      let half := untried ((n + 1) / 2)
      if (n + 1) % 2 = 0 then half ++ half else (half ++ half).push 0

theorem size_untried (n : Nat) : (untried n).size = n := by
  fun_induction untried n with
  | case1 => rfl
  | case2 n half h ih =>
      simp only [half, ByteArray.size_append, ih]
      omega
  | case3 n half h ih =>
      simp only [half, ByteArray.size_push, ByteArray.size_append, ih]
      omega

/-- The entry of an instruction and a place in a text of `length` characters. -/
def Thread.entry (length : Nat) (t : Thread) : Nat :=
  t.instruction * (length + 1) + t.place

/-- Follows the threads in order and gives the first one that is accepted. -/
def follow (program : Program) (text : Array Char) (tried : Tried) :
    List Thread → Option Thread
  | [] => none
  | t :: others =>
      if h : ∃ inside : t.entry text.size < tried.size, tried[t.entry text.size] = 0 then
        if t.isAccepted program then some t
        else
          have := h.1
          follow program text (tried.set (t.entry text.size) 1)
            (t.next program text ++ others)
      else follow program text tried others
termination_by threads => (tried.data.count 0, threads.length)
decreasing_by
  · apply Prod.Lex.left
    obtain ⟨inside, untried⟩ := h
    change (tried.data.set (t.entry text.size) 1 inside).count 0 < _
    rw [Array.count_set inside]
    have found : tried.data[t.entry text.size] = 0 := untried
    have positive : 0 < tried.data.count 0 :=
      Array.count_pos_iff.mpr (found ▸ Array.getElem_mem inside)
    rw [found]
    exact Nat.lt_of_le_of_lt (Nat.le_of_eq (by simp)) (Nat.sub_lt positive Nat.one_pos)
  · apply Prod.Lex.right
    simp

/-- Searches a text from every place on, the leftmost first. -/
def search (program : Program) (text : Array Char) : Option Thread :=
  follow program text (untried (program.size * (text.size + 1)))
    ((List.range (text.size + 1)).map fun place => ⟨0, place, []⟩)

end Stepwise.Regex
