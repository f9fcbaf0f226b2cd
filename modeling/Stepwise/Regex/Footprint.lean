import Stepwise.Regex.Expression
import Stepwise.Regex.SetDraft
import Stepwise.Regex.WordTree

/-!
# Footprints

An expression is refused if an automaton for it takes more memory than allowed, be it
the one that finds where matches end or the one that reads backward to find where they
start.
-/

namespace Stepwise.Regex

/-- The octets of characters one after the other. -/
def spelled (cs : List Char) : List Nat :=
  cs.flatMap fun c => octets c.toNat

/-- Drafts a part a number of times behind a part that is drafted. -/
def draftMore (once : Drafting Exit) (before : Exit) : Nat → Drafting Exit
  | 0 => return before
  | n + 1 => do
      let exit ← once
      before.join
      draftMore once exit n

def draftTimes (once : Drafting Exit) : Nat → Drafting Exit
  | 0 => do
      let _ ← addState
      return .held
  | n + 1 => do draftMore once (← once) n

/-- Drafts a part any number of times; `consumes` tells whether it matches no empty
text. -/
def draftMany (once : Drafting Exit) (consumes : Bool) : Drafting Exit := do
  if consumes then
    let _ ← addState
    (← once).join
    addLinks 1
    return .listed
  else
    (← once).join
    let _ ← addStates 3 0
    addLinks 4
    return .held

/-- Drafts a part at least a number of times, which is not zero. -/
def draftAtLeast (once : Drafting Exit) (min : Nat) : Drafting Exit := do
  (← draftTimes once min).join
  let _ ← addState
  addLinks 1
  return .listed

/-- Drafts a part up to a number of times. Each time may be the last one. -/
def draftUpTo (once : Drafting Exit) (before : Exit) : Nat → Drafting Unit
  | 0 => before.join
  | n + 1 => do
      let _ ← addState
      before.join
      let exit ← once
      addLinks 2
      draftUpTo once exit n

def draftRepeated (once : Drafting Exit) (consumes : Bool) (min : Nat) :
    Option Nat → Drafting Exit
  | none => if min = 0 then draftMany once consumes else draftAtLeast once min
  | some max => do
      if min = 0 ∧ max = 1 then
        let _ ← addState
        (← once).join
        let _ ← addState
        addLinks 2
        return .held
      else
        let exit ← draftTimes once min
        if min = max then return exit
        else
          let _ ← addState
          draftUpTo once exit (max - min)
          return .held

def draftParts : List (Drafting Exit) → Drafting Exit
  | [] => failure
  | [part] => part
  | first :: second :: rest => do
      let a ← first
      let b ← second
      let _ ← addStates 2 0
      a.join
      b.join
      addLinks 2
      for part in rest do
        (← part).join
        addLinks 1
      return .held

namespace Expression

/-- Whether every match begins at the start of the text, as the first assertion tells. -/
def opensAtStart : Expression → Bool
  | .look l => l = .textStart
  | .group _ body => body.opensAtStart
  | .repeated min _ _ body => 0 < min && body.opensAtStart
  | .cat left right => left.opensAtStart || (left.isWidthless && right.opensAtStart)
  | .alt left right => left.opensAtStart && right.opensAtStart
  | _ => false

/-- Whether every match ends at the end of the text, as the last assertion tells. -/
def closesAtEnd : Expression → Bool
  | .look l => l = .textEnd
  | .group _ body => body.closesAtEnd
  | .repeated min _ _ body => 0 < min && body.closesAtEnd
  | .cat left right => right.closesAtEnd || (right.isWidthless && left.closesAtEnd)
  | .alt left right => left.closesAtEnd && right.closesAtEnd
  | _ => false

/-- The words that a choice consists of, if it has no other alternatives. -/
def words? (e : Expression) : Option (List (List Nat)) :=
  e.alternatives.mapM fun a =>
    match a with
    | .literal cs => some (spelled cs)
    | _ => none

/-- Drafts a choice, given the drafts of its alternatives. A choice between words is
drafted as a tree. -/
def draftChoice (e : Expression) (parts : List (Drafting Exit)) : Drafting Exit :=
  match parts, e.words? with
  | _ :: _ :: _, some words => draftWords words
  | parts, _ => draftParts parts

/-- The drafts of the alternatives of an expression, which is one of its own unless it is
a choice. A backward automaton remembers no groups. -/
def drafts : Expression → List (Drafting Exit)
  | .empty => [do
      let _ ← addState
      return .held]
  | .literal cs => [do
      let _ ← addStates (spelled cs).length 0
      return .held]
  | .set octets s => [draftSet octets s]
  | .look _ => [do
      let _ ← addState
      return .held]
  | .group _ body => [do
      let once := body.draftChoice body.drafts
      match (← read).direction with
      | .forward =>
          let _ ← addState
          (← once).join
          let _ ← addState
          return .held
      | .backward => once]
  | .repeated min max _ body =>
      [draftRepeated (body.draftChoice body.drafts) body.consumes min max]
  | .cat left right => [do
      let l := left.draftChoice left.drafts
      let r := right.draftChoice right.drafts
      match (← read).direction with
      | .forward =>
          let exit ← l
          let last ← r
          exit.join
          return last
      | .backward =>
          let exit ← r
          let last ← l
          exit.join
          return last]
  | .alt left right => left.draftChoice left.drafts :: right.drafts

def draft (e : Expression) : Drafting Exit :=
  e.draftChoice e.drafts

/-- Drafts an expression with what an automaton needs around it: the remaining text at the
side where it starts to read, unless a match starts there, and a state for the match. -/
def draftWhole (e : Expression) : Drafting Unit := do
  let isAnchored :=
    match (← read).direction with
    | .forward => e.opensAtStart
    | .backward => e.closesAtEnd
  let before ←
    draft (if isAnchored then .empty else .repeated 0 none false (.set true [(0, 0xff)]))
  let exit ← draft (.group 0 e)
  let _ ← addState
  exit.join
  before.join

/-- The memory that the automaton of an expression takes, if it is within a limit. -/
def footprint? (e : Expression) (direction : Direction) (limit : Nat) : Option Nat :=
  ((e.draftWhole ⟨direction, limit⟩).run {}).map (·.2.bytes)

/-- Whether the automata of an expression are within a limit. -/
def fitsInto (e : Expression) (limit : Nat) : Bool :=
  (e.footprint? .forward limit).isSome && (e.footprint? .backward limit).isSome

end Expression

end Stepwise.Regex
