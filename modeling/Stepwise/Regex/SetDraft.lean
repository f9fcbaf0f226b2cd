import Stepwise.Regex.CharSet
import Stepwise.Regex.Draft
import Stepwise.Regex.OctetRanges

/-!
# Drafts of sets

A set of ASCII characters is one state. Other sets are trees over the sequences of ranges
of octets that their characters are written with. Equal endings of these sequences share
their states as far as these are remembered.
-/

namespace Stepwise.Regex

/-- A state that still takes in links: the ones that it has, and the range of octets for
which the next state is not yet known. -/
structure OpenState where
  /-- First octet, last octet and next state of each link. -/
  arcs : List (Nat × Nat × Nat)
  last : Option OctetRange

/-- Adds the link for which the next state was not yet known. -/
def OpenState.settle (s : OpenState) (next : Nat) : OpenState :=
  match s.last with
  | some (lo, hi) => ⟨s.arcs ++ [(lo, hi, next)], none⟩
  | none => s

/-- The number of states that are remembered for a forward automaton. -/
def forwardSlots : Nat := 10000

/-- The number of states that are remembered for a backward automaton. -/
def backwardSlots : Nat := 1000

/-- The state of an open state that takes in no more links. -/
def OpenState.close (s : OpenState) : Drafting Nat :=
  sharedState forwardSlots (s.arcs.flatMap fun (lo, hi, next) => [lo, hi, next])
    (addArcs s.arcs.length)

/-- Closes open states, each of which is followed by the next one and the last one by
`target`. The result is the state that the first of them becomes. -/
def closeAll (target : Nat) : List OpenState → Drafting Nat
  | [] => return target
  | s :: deeper => do
      let next ← closeAll target deeper
      (s.settle next).close

/-- Adds a sequence of ranges to the open states. The states that it has in common with
the sequence before stay open. -/
def addSequence (target : Nat) : List OpenState → List OctetRange →
    Drafting (List OpenState)
  | [], ranges => return ranges.map fun r => ⟨[], some r⟩
  | states, [] => return states
  | s :: deeper, r :: ranges => do
      if s.last = some r then
        return s :: (← addSequence target deeper ranges)
      else
        let next ← closeAll target deeper
        return { s.settle next with last := some r } ::
          ranges.map fun r => ⟨[], some r⟩

/-- Drafts a set for a forward automaton, given its sequences of ranges. -/
def draftForward (sequences : List (List OctetRange)) : Drafting Exit := do
  let target ← addState
  let states ← sequences.foldlM (addSequence target) [⟨[], none⟩]
  let _ ← closeAll target states
  return .held

/-- Drafts a set for a backward automaton, given its sequences of ranges. -/
def draftBackward (sequences : List (List OctetRange)) : Drafting Exit := do
  let _ ← addState
  let target ← addState
  for ranges in sequences do
    let _ ← ranges.foldlM
      (fun next (lo, hi) => sharedState backwardSlots [next, lo, hi] addState) target
    addLinks 1
  return .listed

def draftSet (octets : Bool) (s : CharSet) : Drafting Exit := do
  if octets || s.all (·.2 < 0x80) then
    let _ ← addState
    let _ ← addArcs s.length
    return .held
  else
    modify fun draft => { draft with shared := {} }
    let sequences := s.flatMap fun (lo, hi) => octetRanges lo hi
    match (← read).direction with
    | .forward => draftForward sequences
    | .backward => draftBackward sequences

end Stepwise.Regex
