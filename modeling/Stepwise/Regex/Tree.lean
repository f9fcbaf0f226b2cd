/-!
# Syntax trees of regular expressions

A tree records a regular expression as it is written. What its parts match depends
on the flags in force and is settled when the tree is resolved into an expression.
Sequences and choices of several parts lean to the right.
-/

namespace Stepwise.Regex

/-- The classes with a one-letter escape: `\d`, `\s` and `\w`. -/
inductive ShortClass
  | digit
  | space
  | word
deriving DecidableEq, Repr

/-- The classes that are written `[:name:]` inside of brackets. -/
inductive NamedClass
  | alnum
  | alpha
  | ascii
  | blank
  | cntrl
  | digit
  | graph
  | lower
  | print
  | punct
  | space
  | upper
  | word
  | xdigit
deriving DecidableEq, Repr

/-- A character standing for itself. It is an octet when it was written with two
hexadecimal digits, which outside of Unicode mode stand for a byte. -/
structure Literal where
  char : Char
  octet : Bool := false
deriving DecidableEq, Repr

/-- What is asked of a character by `\p`. -/
inductive PropertyQuery
  /-- A property, a category or a script by its name. -/
  | name (name : String)
  /-- The value of a property; `differs` asks for all other values. -/
  | value (property value : String) (differs : Bool)
deriving DecidableEq, Repr

/-- Operations between the two sides of a bracketed class. -/
inductive SetOperation
  | intersection
  | difference
  | symmetricDifference
deriving DecidableEq, Repr

/-- The content of a bracketed class. -/
inductive Bracket
  | empty
  | literal (l : Literal)
  | range (first last : Literal)
  | short (negated : Bool) (k : ShortClass)
  | named (negated : Bool) (k : NamedClass)
  | property (negated : Bool) (query : PropertyQuery)
  | nested (negated : Bool) (content : Bracket)
  | union (left right : Bracket)
  | operation (op : SetOperation) (left right : Bracket)
deriving DecidableEq, Repr

/-- Places that a word edge assertion asks for. -/
inductive WordEdge
  /-- A word starts or ends here. -/
  | boundary
  /-- No word starts or ends here. -/
  | interior
  /-- A word starts here. -/
  | wordStart
  /-- A word ends here. -/
  | wordEnd
  /-- No word character comes before. -/
  | startHalf
  /-- No word character comes after. -/
  | endHalf
deriving DecidableEq, Repr

/-- Assertions as they are written. -/
inductive Anchor
  /-- Written `^`. -/
  | lineStart
  /-- Written `$`. -/
  | lineEnd
  /-- Written `\A`. -/
  | textStart
  /-- Written `\z`. -/
  | textEnd
  | edge (e : WordEdge)
deriving DecidableEq, Repr

/-- Flags that a group or a flag setting may switch. -/
inductive Flag
  /-- Letters match in either case. -/
  | caseless
  /-- `^` and `$` match at every line. -/
  | multiline
  /-- A dot matches a line feed, too. -/
  | dotAll
  /-- Repetitions are lazy, and greedy with a question mark. -/
  | swapGreed
  /-- Classes and letters are those of Unicode. -/
  | unicode
  /-- Lines end with carriage returns as well. -/
  | crlf
  /-- Blanks and comments in the expression are skipped. -/
  | verbose
deriving DecidableEq, Repr

/-- The flags that are switched on or off, in writing order. -/
abbrev FlagChange := List (Flag × Bool)

/-- What a flag becomes, if it is switched. -/
def FlagChange.value? (change : FlagChange) (flag : Flag) : Option Bool :=
  (change.find? (·.1 = flag)).map (·.2)

/-- How a group is opened. -/
inductive GroupKind
  /-- A group that is remembered, maybe under a name. -/
  | capture (name : Option String)
  /-- A group that only changes flags, maybe none. -/
  | plain (change : FlagChange)
deriving DecidableEq, Repr

/-- A regular expression as it is written. -/
inductive Tree
  | empty
  | literal (l : Literal)
  | dot
  | anchor (a : Anchor)
  | short (negated : Bool) (k : ShortClass)
  | property (negated : Bool) (query : PropertyQuery)
  | bracket (negated : Bool) (content : Bracket)
  | flags (change : FlagChange)
  | capture (index : Nat) (body : Tree)
  | group (change : FlagChange) (body : Tree)
  | repeated (body : Tree) (min : Nat) (max : Option Nat) (greedy : Bool)
  | cat (left right : Tree)
  | alt (left right : Tree)
deriving DecidableEq, Repr

def Tree.sequence : List Tree → Tree
  | [] => .empty
  | [t] => t
  | t :: ts => .cat t (sequence ts)

def Tree.choice : List Tree → Tree
  | [] => .empty
  | [t] => t
  | t :: ts => .alt t (choice ts)

/-- How deeply a class is nested. A union counts once however many parts it has, so
`inUnion` tells that the content continues one that was counted. -/
def Bracket.depth (inUnion : Bool) : Bracket → Nat
  | .nested _ content => 1 + content.depth false
  | .union left right =>
      (if inUnion then 0 else 1) + max (left.depth true) (right.depth false)
  | .operation _ left right => 1 + max (left.depth false) (right.depth false)
  | _ => 0

/-- What a part of a tree continues: a sequence, a choice or neither. -/
inductive Tree.Chain
  | none
  | sequence
  | choice
deriving DecidableEq

/-- How deeply a tree is nested. A sequence or a choice counts once however many
parts it has. -/
def Tree.depth (chain : Tree.Chain) : Tree → Nat
  | .bracket _ content => 1 + content.depth false
  | .capture _ body => 1 + body.depth .none
  | .group _ body => 1 + body.depth .none
  | .repeated body _ _ _ => 1 + body.depth .none
  | .cat left right =>
      (if chain = .sequence then 0 else 1) + max (left.depth .none) (right.depth .sequence)
  | .alt left right =>
      (if chain = .choice then 0 else 1) + max (left.depth .none) (right.depth .choice)
  | _ => 0

end Stepwise.Regex
