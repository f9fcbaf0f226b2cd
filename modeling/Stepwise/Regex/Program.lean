import Stepwise.Regex.Expression

/-!
# Programs

An expression is compiled to instructions that are numbered from zero. The code of
an expression starts at its first instruction and goes on at a given number once the
expression has matched, so the code of every part can be read on its own. Repetitions
are written out. Main statement: the code has as many instructions as the size of the
expression tells.
-/

namespace Stepwise.Regex

/-- One instruction; the numbers tell where to go on. -/
inductive Instruction
  /-- Takes a character of a set. -/
  | consume (s : CharSet) (next : Nat)
  /-- Goes on where an assertion holds. -/
  | check (look : Look) (next : Nat)
  /-- Remembers the place under a number. -/
  | mark (slot next : Nat)
  /-- Goes on at two places, of which the first is preferred. -/
  | fork (first second : Nat)
  | jump (next : Nat)
  | accept

/-- Goes on inside of a repetition or behind it; a greedy one prefers to stay inside. -/
def Instruction.turn (greedy : Bool) (inside behind : Nat) : Instruction :=
  if greedy then .fork inside behind else .fork behind inside

/-- The code of characters one after the other. -/
def spell (start : Nat) : List Char → List Instruction
  | [] => []
  | c :: cs => .consume (.single c) (start + 1) :: spell (start + 1) cs

/-- The code of `n` parts of one size, each going on at the next one. A part is given by
where it starts. -/
def inRow (size : Nat) (part : Nat → List Instruction) (start n : Nat) : List Instruction :=
  (List.range n).flatMap fun i => part (start + i * size)

/-- The code of an expression of which the first instruction has number `start` and
which goes on at `next`. -/
def Expression.code (start next : Nat) : Expression → List Instruction
  | .empty => [.jump next]
  | .literal cs => spell start cs ++ [.jump next]
  | .set _ s => [.consume s next]
  | .look l => [.check l next]
  | .group index body =>
      .mark (2 * index) (start + 1) ::
        (body.code (start + 1) (start + 1 + body.size) ++ [.mark (2 * index + 1) next])
  | .repeated min max greedy body =>
      let once (place : Nat) := body.code place (place + body.size)
      let copies := inRow body.size once start min
      match max with
      | some max =>
          let maybe (place : Nat) := .turn greedy (place + 1) next :: once (place + 1)
          copies ++
            (inRow (body.size + 1) maybe (start + min * body.size) (max - min) ++
              [.jump next])
      | none =>
          if min = 0 then
            .turn greedy (start + 1) next ::
              if body.consumes then body.code (start + 1) start
              else once (start + 1) ++ [.turn greedy (start + 1) next]
          else copies ++ [.turn greedy (start + (min - 1) * body.size) next]
  | .cat left right =>
      left.code start (start + left.size) ++ right.code (start + left.size) next
  | .alt left right =>
      .fork (start + 1) (start + 1 + left.size) ::
        (left.code (start + 1) next ++ right.code (start + 1 + left.size) next)

/-- The instructions of an expression, with the accepting one behind them. -/
abbrev Program := Array Instruction

def Expression.program (e : Expression) : Program :=
  (e.code 0 e.size ++ [Instruction.accept]).toArray

theorem length_spell (start : Nat) (cs : List Char) : (spell start cs).length = cs.length := by
  induction cs generalizing start with
  | nil => rfl
  | cons c cs ih => simp [spell, ih]

theorem length_inRow {size : Nat} {part : Nat → List Instruction}
    (h : ∀ place, (part place).length = size) (start n : Nat) :
    (inRow size part start n).length = n * size := by
  induction n with
  | zero => simp [inRow]
  | succ n ih =>
      rw [inRow] at ih
      rw [inRow, List.range_succ, List.flatMap_append, List.length_append, ih]
      simp [h, Nat.add_mul]

theorem Expression.length_code (e : Expression) (start next : Nat) :
    (e.code start next).length = e.size := by
  induction e generalizing start next with
  | empty => rfl
  | literal cs => simp [code, size, length_spell]
  | set octets s => rfl
  | look l => rfl
  | group index body ih => simp [code, size, ih]
  | repeated min max greedy body ih =>
      have copies := length_inRow (fun place => ih place (place + body.size)) start min
      cases max with
      | some max =>
          have maybe : (inRow (body.size + 1)
              (fun place => Instruction.turn greedy (place + 1) next ::
                body.code (place + 1) (place + 1 + body.size))
              (start + min * body.size) (max - min)).length =
                (max - min) * (body.size + 1) :=
            length_inRow (fun place => by simp [ih]) _ _
          simp only [code, size, List.length_append, copies, maybe, List.length_singleton]
          omega
      | none =>
          simp only [code, size]
          split
          · split <;> simp [ih]
          · simp [copies]
  | cat left right ihl ihr => simp [code, size, ihl, ihr]
  | alt left right ihl ihr => simp [code, size, ihl, ihr]

end Stepwise.Regex
