import Stepwise.Regex.Expression
import Stepwise.Regex.Fault
import Stepwise.Unicode.Property

/-!
# Resolving flags

A tree becomes an expression once the flags in force at each of its parts are known.
A flag setting holds up to the end of the group around it, through all alternatives
that follow. Outside of Unicode mode whatever could match a part of a character is
refused. The alternatives of a choice are resolved together, because what all of them
begin with is put in front of them.
-/

namespace Stepwise.Regex

/-- The flags in force at some part of an expression. -/
structure Flags where
  caseless : Bool := false
  multiline : Bool := false
  dotAll : Bool := false
  swapGreed : Bool := false
  unicode : Bool := true
  crlf : Bool := false
deriving DecidableEq, Repr

/-- The flags after one of them is switched. Blanks were skipped while the text was
read, so the flag for them makes no difference here. -/
def Flags.switch (flags : Flags) : Flag × Bool → Flags
  | (.caseless, on) => { flags with caseless := on }
  | (.multiline, on) => { flags with multiline := on }
  | (.dotAll, on) => { flags with dotAll := on }
  | (.swapGreed, on) => { flags with swapGreed := on }
  | (.unicode, on) => { flags with unicode := on }
  | (.crlf, on) => { flags with crlf := on }
  | (.verbose, _) => flags

def Flags.apply (flags : Flags) (change : FlagChange) : Flags :=
  change.foldl Flags.switch flags

/-- The set with its case variants, if case does not matter. -/
def Flags.fold (flags : Flags) (s : CharSet) : CharSet :=
  if flags.caseless then
    if flags.unicode then s.folded else s.asciiFolded
  else s

/-- A set or its complement. Outside of Unicode mode the complement of a set has
parts of characters. -/
def Flags.negate (flags : Flags) (negated : Bool) (s : CharSet) : Except Fault CharSet :=
  if negated && !flags.unicode then .error .splitsCharacters
  else .ok (s.negatedIf negated)

def Flags.short (flags : Flags) (negated : Bool) (k : ShortClass) : Except Fault CharSet :=
  flags.negate negated (if flags.unicode then .ofShort k else .ofShortAscii k)

def Flags.property (flags : Flags) (negated : Bool) (query : PropertyQuery) :
    Except Fault CharSet :=
  if !flags.unicode then .error .needsUnicode
  else
    match query with
    | .name name =>
        match Unicode.named? name with
        | none => .error .unknownProperty
        | some s => flags.negate negated (flags.fold s)
    | .value property value differs =>
        match Unicode.valued? property value with
        | none => .error .unknownProperty
        | some s => flags.negate (negated != differs) (flags.fold s)

/-- The character of a literal. An octet above ASCII is a part of a character outside
of Unicode mode. -/
def Flags.literal (flags : Flags) (l : Literal) : Except Fault Char :=
  if !flags.unicode && l.octet && l.char.toNat ≥ 0x80 then .error .splitsCharacters
  else .ok l.char

/-- The character of a literal inside of a class, which is ASCII outside of Unicode
mode. -/
def Flags.classLiteral (flags : Flags) (l : Literal) : Except Fault Char := do
  let c ← flags.literal l
  if !flags.unicode && c.toNat ≥ 0x80 then throw .needsUnicode
  return c

def Bracket.resolve (flags : Flags) : Bracket → Except Fault CharSet
  | .empty => .ok []
  | .literal l => do return .single (← flags.classLiteral l)
  | .range first last => do
      return .range (← flags.classLiteral first) (← flags.classLiteral last)
  | .short negated k => flags.short negated k
  | .named negated k => flags.negate negated (flags.fold (.ofNamed k))
  | .property negated query => flags.property negated query
  | .nested negated content => do
      flags.negate negated (flags.fold (← content.resolve flags))
  | .union left right => do
      return (← left.resolve flags).union (← right.resolve flags)
  | .operation op left right => do
      return .operate op (flags.fold (← left.resolve flags))
        (flags.fold (← right.resolve flags))

def Flags.anchor (flags : Flags) : Anchor → Look
  | .lineStart => if flags.multiline then .lineStart flags.crlf else .textStart
  | .lineEnd => if flags.multiline then .lineEnd flags.crlf else .textEnd
  | .textStart => .textStart
  | .textEnd => .textEnd
  | .edge e => .edge e flags.unicode

def Flags.dot (flags : Flags) : Except Fault CharSet :=
  if !flags.unicode then .error .splitsCharacters
  else if flags.dotAll then .ok .anything
  else if flags.crlf then
    .ok (Unicode.Ranges.compl (.unionAll [CharSet.single '\n', CharSet.single '\r']))
  else .ok (CharSet.single '\n').compl

def Flags.oneOf (flags : Flags) (s : CharSet) : Expression :=
  .ofSet (!flags.unicode) s

/-- The alternatives of a tree, which is one of its own unless it is a choice, and the
flags that are in force behind it. -/
def Tree.resolve (flags : Flags) : Tree → Except Fault (List Expression × Flags)
  | .empty => .ok ([.empty], flags)
  | .literal l => do
      return ([flags.oneOf (flags.fold (.single (← flags.literal l)))], flags)
  | .dot => do return ([flags.oneOf (← flags.dot)], flags)
  | .anchor a => .ok ([.look (flags.anchor a)], flags)
  | .short negated k => do return ([flags.oneOf (← flags.short negated k)], flags)
  | .property negated query => do
      return ([flags.oneOf (← flags.property negated query)], flags)
  | .bracket negated content => do
      let s ← flags.negate negated (flags.fold (← content.resolve flags))
      return ([flags.oneOf s], flags)
  | .flags change => .ok ([.empty], flags.apply change)
  | .capture index body => do
      let (es, _) ← body.resolve flags
      return ([.group index (.choice es)], flags)
  | .group change body => do
      let (es, _) ← body.resolve (flags.apply change)
      return ([.choice es], flags)
  | .repeated body min max greedy => do
      let (es, after) ← body.resolve flags
      return ([(Expression.choice es).times min max (greedy != flags.swapGreed)], after)
  | .cat left right => do
      let (ls, between) ← left.resolve flags
      let (rs, after) ← right.resolve between
      return ([(Expression.choice ls).followedBy (.choice rs)], after)
  | .alt left right => do
      let (ls, between) ← left.resolve flags
      let (rs, after) ← right.resolve between
      return (.choice ls :: rs, after)

/-- The expression of a tree. -/
def Tree.expression (t : Tree) : Except Fault Expression := do
  let (es, _) ← t.resolve {}
  return .choice es

end Stepwise.Regex
