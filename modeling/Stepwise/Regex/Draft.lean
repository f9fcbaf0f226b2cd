import Std.Data.HashMap

/-!
# Drafts of automata

The memory that an automaton takes is found by drafting it: its states are counted, and
so are the links that do not fit into a state. A draft is given up as soon as it takes
more memory than it may.
-/

namespace Stepwise.Regex

/-- The direction in which an automaton reads a text. -/
inductive Direction
  | forward
  | backward
deriving DecidableEq, Repr

/-- What is drafted: an automaton for a direction, in a number of bytes. -/
structure DraftPlan where
  direction : Direction
  limit : Nat

/-- An automaton as far as it is drafted. -/
structure Draft where
  /-- The number of states. -/
  states : Nat := 0
  /-- The number of bytes that the states do not hold. -/
  extra : Nat := 0
  /-- The shared states of the set that is being drafted, each with what it was made for,
  by slots. -/
  shared : Std.HashMap Nat (List Nat × Nat) := {}

def stateBytes : Nat := 32

/-- The number of bytes that a link with a range of octets takes. -/
def arcBytes : Nat := 8

/-- The number of bytes that a link without a range takes. -/
def linkBytes : Nat := 4

/-- The memory that a draft takes. -/
def Draft.bytes (draft : Draft) : Nat :=
  draft.states * stateBytes + draft.extra

/-- Drafting gives no result if the draft takes too much memory. -/
abbrev Drafting := ReaderT DraftPlan (StateT Draft Option)

/-- Adds states and the bytes that they do not hold. The result is the number of the
first one. -/
def addStates (states extra : Nat) : Drafting Nat := do
  let draft ← get
  let grown := { draft with states := draft.states + states, extra := draft.extra + extra }
  if grown.bytes ≤ (← read).limit then
    set grown
    return draft.states
  else failure

def addState : Drafting Nat :=
  addStates 1 0

def addLinks (n : Nat) : Drafting Unit := do
  let _ ← addStates 0 (n * linkBytes)

/-- Adds a state with links for ranges of octets. -/
def addArcs (n : Nat) : Drafting Nat :=
  addStates 1 (n * arcBytes)

/-- A number that depends on all numbers of a key and on their order. -/
def keyHash (key : List Nat) : UInt64 :=
  key.foldl (fun h n => (h ^^^ n.toUInt64) * 0x100000001b3) 0xcbf29ce484222325

/-- The slot of a key among a number of slots. -/
def slotOf (slots : Nat) (key : List Nat) : Nat :=
  (keyHash key).toNat % slots

/-- The state for a key. One that was made for the same key is used again, unless another
state has taken its slot since. -/
def sharedState (slots : Nat) (key : List Nat) (make : Drafting Nat) : Drafting Nat := do
  let slot := slotOf slots key
  match (← get).shared[slot]? with
  | some (known, state) => if known = key then return state else remember slot
  | none => remember slot
where
  /-- Makes the state and keeps it in its slot. -/
  remember (slot : Nat) : Drafting Nat := do
    let state ← make
    modify fun draft => { draft with shared := draft.shared.insert slot (key, state) }
    return state

/-- How a part goes on behind its last state: over a link that this state holds, or over
one more of the links that it lists. -/
inductive Exit
  | held
  | listed
deriving DecidableEq, Repr

/-- Links the last state of a part with what follows. -/
def Exit.join : Exit → Drafting Unit
  | .held => return
  | .listed => addLinks 1

end Stepwise.Regex
