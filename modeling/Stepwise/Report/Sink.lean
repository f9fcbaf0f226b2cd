/-!
# Outputs

A sink takes the text of a report piece by piece and may fail. A sink that is limited in
its size takes as much as fits before it fails.
-/

namespace Stepwise

/-- An output with states of type `ω`. Writing and flushing may fail with a text; what
was taken before is in the new state even so. -/
structure Sink (ω : Type) where
  write : ω → String → ω × Option String
  flush : ω → ω × Option String

namespace Sink

variable {ω : Type}

/-- Writes texts in order until one of them fails. -/
def writeAll (sink : Sink ω) : List String → ω → ω × Option String
  | [], state => (state, none)
  | text :: rest, state =>
      match sink.write state text with
      | (after, some failure) => (after, some failure)
      | (after, none) => sink.writeAll rest after

/-- Writes texts in order and flushes. -/
def writeAllAndFlush (sink : Sink ω) (texts : List String) (state : ω) :
    ω × Option String :=
  match sink.writeAll texts state with
  | (after, some failure) => (after, some failure)
  | (after, none) => sink.flush after

/-- A sink that collects all texts and never fails. -/
def collecting : Sink String where
  write state text := (state ++ text, none)
  flush state := (state, none)

end Sink

/-- The text taken by a limited sink, and what it still takes; a missing number is no
limit. -/
structure LimitedText where
  taken : String := ""
  /-- The number of bytes that still fit. -/
  room : Option Nat := none
  /-- The number of times it can still be flushed. -/
  flushes : Option Nat := none
deriving DecidableEq, Repr

namespace LimitedText

/-- Splits a text behind the characters that fit into a number of bytes, and gives what
is left of that number. -/
def splitFitting : Nat → List Char → List Char × List Char × Nat
  | room, [] => ([], [], room)
  | room, c :: rest =>
      if c.utf8Size ≤ room then
        let (fitting, others, left) := splitFitting (room - c.utf8Size) rest
        (c :: fitting, others, left)
      else ([], c :: rest, room)

/-- Takes a text as far as it fits. -/
def write (state : LimitedText) (text : String) : LimitedText × Option String :=
  match state.room with
  | none => ({ state with taken := state.taken ++ text }, none)
  | some room =>
      let (fitting, others, left) := splitFitting room text.toList
      ({ state with taken := state.taken ++ String.ofList fitting, room := some left },
        if others.isEmpty then none else some "sink is full")

/-- Flushes if that is still possible. -/
def flush (state : LimitedText) : LimitedText × Option String :=
  match state.flushes with
  | none => (state, none)
  | some 0 => (state, some "flush failed")
  | some (n + 1) => ({ state with flushes := some n }, none)

def sink : Sink LimitedText :=
  ⟨write, flush⟩

end LimitedText

end Stepwise
