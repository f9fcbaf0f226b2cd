import Stepwise.Unicode.Binary
import Stepwise.Unicode.Later

/-!
# Quoted text

A text in double quotes, with escapes for whatever would not be visible.
-/

namespace Stepwise.Text

/-- The digits of a number in base sixteen. -/
def hexDigits (n : Nat) : List Char :=
  Nat.toDigits 16 n

/-- The characters that have no visible form of their own: separators, controls, unknown
characters and those that change the character before them. -/
def invisible : Unicode.Ranges :=
  open Unicode.Category in
  .unionAll [separator, control, format, privateUse, unassigned, Unicode.graphemeExtend]

/-- Whether a character has a visible form of its own. A blank counts as visible. -/
def isVisible (c : Char) : Bool :=
  c = ' ' || !invisible.has c || Unicode.laterVisible.has c

/-- A character as it stands between quotes. -/
def escape (c : Char) : List Char :=
  match c with
  | '\x00' => ['\\', '0']
  | '\t' => ['\\', 't']
  | '\r' => ['\\', 'r']
  | '\n' => ['\\', 'n']
  | '"' => ['\\', '"']
  | '\\' => ['\\', '\\']
  | c =>
      if isVisible c then [c]
      else ['\\', 'u', '\x7b'] ++ hexDigits c.toNat ++ ['\x7d']

/-- A text in double quotes. -/
def quoted (text : String) : String :=
  String.ofList ('"' :: text.toList.flatMap escape ++ ['"'])

/-- A text that may be missing. -/
def quotedOption : Option String → String
  | none => "None"
  | some text => "Some(" ++ quoted text ++ ")"

end Stepwise.Text
