import Stepwise.Regex.Lexeme

/-!
# From lexemes to syntax trees

Lexemes are taken in one after the other. The alternatives and the pieces of the
group being read are collected, and what surrounds each open group is kept until
the group is closed.
-/

namespace Stepwise.Regex

/-- A group that is open: how it is remembered and what stood before it. -/
structure OpenGroup where
  /-- Turns the content into a tree. -/
  close : Tree → Tree
  /-- The alternatives before, the last one first. -/
  alternatives : List Tree
  /-- The pieces before, the last one first. -/
  pieces : List Tree

/-- An expression while it is read. -/
structure TreeBuilder where
  /-- The open groups, the innermost first. -/
  outer : List OpenGroup := []
  /-- The complete alternatives of the group being read, the last one first. -/
  alternatives : List Tree := []
  /-- The pieces of the alternative being read, the last one first. -/
  pieces : List Tree := []
  /-- The names of the groups so far in the order of their numbers, the last one
  first. -/
  names : List (Option String) := []

def TreeBuilder.tree (builder : TreeBuilder) : Tree :=
  Tree.choice (Tree.sequence builder.pieces.reverse :: builder.alternatives).reverse

def TreeBuilder.add (builder : TreeBuilder) (piece : Tree) : TreeBuilder :=
  { builder with pieces := piece :: builder.pieces }

def TreeBuilder.open (builder : TreeBuilder) (close : Tree → Tree)
    (names : List (Option String)) : TreeBuilder :=
  ⟨⟨close, builder.alternatives, builder.pieces⟩ :: builder.outer, [], [], names⟩

def TreeBuilder.take (builder : TreeBuilder) : Lexeme → Except Fault TreeBuilder
  | .atom tree => .ok (builder.add tree)
  | .flags change => .ok (builder.add (.flags change))
  | .openGroup (.plain change) => .ok (builder.open (.group change) builder.names)
  | .openGroup (.capture name) =>
      match name with
      | some n =>
          if builder.names.contains (some n) then .error (.repeatedGroupName n)
          else .ok (builder.open (.capture (builder.names.length + 1)) (name :: builder.names))
      | none =>
          .ok (builder.open (.capture (builder.names.length + 1)) (none :: builder.names))
  | .closeGroup =>
      match builder.outer with
      | [] => .error .unopenedGroup
      | group :: outer =>
          .ok ⟨outer, group.alternatives, group.close builder.tree :: group.pieces,
            builder.names⟩
  | .bar =>
      .ok { builder with
        alternatives := Tree.sequence builder.pieces.reverse :: builder.alternatives
        pieces := [] }
  | .repetition min max isLazy =>
      match builder.pieces with
      | [] => .error .nothingToRepeat
      | .flags _ :: _ => .error .nothingToRepeat
      | piece :: pieces =>
          .ok { builder with pieces := .repeated piece min max (!isLazy) :: pieces }

def depthLimit : Nat := 250

/-- Ends the expression. All groups have to be closed. -/
def TreeBuilder.finish (builder : TreeBuilder) : Except Fault (Tree × List (Option String)) :=
  if !builder.outer.isEmpty then .error .unclosedGroup
  else if builder.tree.depth .none > depthLimit then .error .nestedTooDeeply
  else .ok (builder.tree, builder.names.reverse)

/-- Reads an expression: its tree and the names of its groups in the order of their
numbers. -/
def parse (source : List Char) : Except Fault (Tree × List (Option String)) := do
  let builder ← (← lexemes {} source).foldlM TreeBuilder.take {}
  builder.finish

end Stepwise.Regex
