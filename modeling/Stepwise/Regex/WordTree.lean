import Stepwise.Regex.Draft

/-!
# Trees of words

The choice between several words is drafted as a tree in which words share what they
begin with. Words are kept in their order of preference: what comes behind the end of
a word is not mixed with what comes before it.
-/

namespace Stepwise.Regex

/-- The runs of words that are separated by empty words. -/
def runs : List (List Nat) → List (List (List Nat))
  | [] => [[]]
  | [] :: words => [] :: runs words
  | word :: words =>
      match runs words with
      | run :: rest => (word :: run) :: rest
      | [] => [[word]]

/-- Drops empty words at the start but for one. -/
def onceEmpty : List (List Nat) → List (List Nat)
  | [] :: [] :: words => onceEmpty ([] :: words)
  | words => words

/-- The words of a run that begin with an octet, without it. -/
def behind (octet : Nat) (run : List (List Nat)) : List (List Nat) :=
  run.filterMap fun word =>
    match word with
    | o :: rest => if o = octet then some rest else none
    | [] => none

/-- The states, and the bytes that they do not hold, of the tree of words of at most
`depth` octets. -/
def wordTree : Nat → List (List Nat) → Nat × Nat
  | 0, _ => (1, 0)
  | depth + 1, words =>
      let runs := runs (onceEmpty words)
      let full := runs.filter (!·.isEmpty)
      let links := runs.length - 1 + full.length
      let parts := full.flatMap fun run =>
        let octets := (run.filterMap List.head?).eraseDups
        let arcs := if octets.length = 1 then 0 else octets.length * arcBytes
        (1, arcs) :: ((octets.map (behind · run)).filter (·.any (!·.isEmpty))).map
          (wordTree depth)
      ((parts.map (·.1)).sum + 1, (parts.map (·.2)).sum + links * linkBytes)

def draftWords (words : List (List Nat)) : Drafting Exit := do
  let words :=
    match (← read).direction with
    | .forward => words
    | .backward => words.map List.reverse
  let (states, extra) := wordTree ((words.map List.length).foldl max 0) words
  let _ ← addState
  let _ ← addStates states extra
  return .held

end Stepwise.Regex
