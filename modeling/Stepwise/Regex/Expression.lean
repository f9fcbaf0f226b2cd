import Stepwise.Regex.CharSet
import Stepwise.Regex.Look

/-!
# Expressions

What a regular expression matches, with all flags settled: characters, sets of
characters, assertions and their combinations. A choice prefers its left side. A
repetition that goes on as long as it can is greedy; a lazy one stops as soon as it can.

Expressions are put together in a normal form. Sequences and choices lean to the right,
neighbouring characters of a sequence are one literal, and what all alternatives of a
choice begin with stands in front of the choice. The last rule decides which match is
preferred: `a*b` comes before the shorter match of `a*a` in the choice of both.
-/

namespace Stepwise.Regex

/-- A regular expression with settled flags. -/
inductive Expression
  | empty
  /-- Characters one after the other. -/
  | literal (cs : List Char)
  /-- A set of characters; `octets` tells that it was written outside of Unicode mode. -/
  | set (octets : Bool) (s : CharSet)
  | look (l : Look)
  /-- A group that is remembered under its number. -/
  | group (index : Nat) (body : Expression)
  /-- Between two numbers of times, without an upper limit if there is none. -/
  | repeated (min : Nat) (max : Option Nat) (greedy : Bool) (body : Expression)
  | cat (left right : Expression)
  | alt (left right : Expression)
deriving DecidableEq

namespace Expression

/-- Whether an expression matches the empty text at most. Nothing is known of what has
no match at all. -/
def isWidthless : Expression → Bool
  | .empty => true
  | .literal _ => false
  | .set _ _ => false
  | .look _ => true
  | .group _ body => body.isWidthless
  | .repeated _ _ _ body => body.isWidthless
  | .cat left right => left.isWidthless && right.isWidthless
  | .alt left right => left.isWidthless && right.isWidthless

/-- The least number of characters of a match. Nothing is known of an expression with a
part that has no match at all. -/
def leastLength? : Expression → Option Nat
  | .empty => some 0
  | .literal cs => some cs.length
  | .set _ s => if s.isEmpty then none else some 1
  | .look _ => some 0
  | .group _ body => body.leastLength?
  | .repeated min _ _ body => return min * (← body.leastLength?)
  | .cat left right => return (← left.leastLength?) + (← right.leastLength?)
  | .alt left right => return Nat.min (← left.leastLength?) (← right.leastLength?)

/-- Whether an expression is known to match no empty text. -/
def consumes (e : Expression) : Bool :=
  e.leastLength?.any (0 < ·)

/-- The pieces of a sequence. -/
def pieces : Expression → List Expression
  | .empty => []
  | .cat left right => left :: right.pieces
  | e => [e]

def alternatives : Expression → List Expression
  | .alt left right => left :: right.alternatives
  | e => [e]

def nothing : Expression :=
  .set true []

/-- The expression of a set. A set of one character is a literal. -/
def ofSet (octets : Bool) (s : CharSet) : Expression :=
  match s with
  | [] => nothing
  | [(lo, hi)] => if lo = hi then .literal [Char.ofNat lo] else .set octets s
  | s => .set octets s

/-- An expression behind another one. Literals that meet become one. -/
def followedBy : Expression → Expression → Expression
  | .empty, next => next
  | .cat left right, next => .cat left (right.followedBy next)
  | e, .empty => e
  | .literal cs, .literal ds => .literal (cs ++ ds)
  | .literal cs, .cat (.literal ds) rest => .cat (.literal (cs ++ ds)) rest
  | e, next => .cat e next

def sequence (es : List Expression) : Expression :=
  es.foldr followedBy .empty

/-- An expression between two numbers of times. What matches the empty text at most is
repeated once at most. -/
def times (e : Expression) (min : Nat) (max : Option Nat) (greedy : Bool) : Expression :=
  let least := if e.isWidthless then Nat.min min 1 else min
  let most := if e.isWidthless then some (Nat.min (max.getD 1) 1) else max
  if least = 0 ∧ most = some 0 then .empty
  else if least = 1 ∧ most = some 1 then e
  else .repeated least most greedy e

def character? : Expression → Option Char
  | .literal [c] => some c
  | _ => none

def set? : Expression → Option CharSet
  | .set _ s => some s
  | _ => none

/-- The set that a choice between characters, or between sets, comes to. -/
def union? (es : List Expression) : Option CharSet :=
  ((es.mapM character?).map fun cs => .arranged (cs.map fun c => (c.toNat, c.toNat))).or
    ((es.mapM set?).map .unionAll)

/-- The choice between alternatives that are taken as they are. -/
def chain : List Expression → Expression
  | [] => nothing
  | [e] => e
  | e :: es => .alt e (chain es)

/-- The choice between alternatives. Choices between them are opened, and a choice
between characters or sets is a set. -/
def choose (es : List Expression) : Expression :=
  let es := es.flatMap alternatives
  match union? es with
  | some s => ofSet false s
  | none => chain es

/-- What two lists begin with. -/
def commonStart : List Expression → List Expression → List Expression
  | e :: es, f :: fs => if e = f then e :: commonStart es fs else []
  | _, _ => []

/-- The pieces that all alternatives begin with. Only sequences of several pieces
count. -/
def sharedPieces : List Expression → List Expression
  | [] => []
  | e :: es =>
      if (e :: es).all (2 ≤ ·.pieces.length) then
        es.foldl (fun shared f => commonStart shared f.pieces) e.pieces
      else []

/-- The choice between several alternatives. What all of them begin with is put in front
of it. -/
def choice (es : List Expression) : Expression :=
  match es with
  | [e] => e
  | es =>
      let es := es.flatMap alternatives
      let shared := sharedPieces es
      if shared.isEmpty then choose es
      else
        (sequence shared).followedBy
          (choose (es.map fun e => sequence (e.pieces.drop shared.length)))

/-- The number of instructions that an expression is compiled to. -/
def size : Expression → Nat
  | .empty => 1
  | .literal cs => cs.length + 1
  | .set _ _ => 1
  | .look _ => 1
  | .group _ body => body.size + 2
  | .repeated min max _ body =>
      match max with
      | some max => min * body.size + (max - min) * (body.size + 1) + 1
      | none =>
          if min = 0 then
            if body.consumes then body.size + 1 else body.size + 2
          else min * body.size + 1
  | .cat left right => left.size + right.size
  | .alt left right => left.size + right.size + 1

end Expression

end Stepwise.Regex
