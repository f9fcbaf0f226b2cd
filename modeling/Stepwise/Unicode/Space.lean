import Stepwise.Unicode.Ranges

/-!
# White space

The property `White_Space`: the characters that `\s` matches, that separate the
words of a step and that bound its literals.
-/

namespace Stepwise.Unicode

def whiteSpace : Ranges :=
  [(0x9, 0xd), (0x20, 0x20), (0x85, 0x85), (0xa0, 0xa0), (0x1680, 0x1680), (0x2000, 0x200a),
   (0x2028, 0x2029), (0x202f, 0x202f), (0x205f, 0x205f), (0x3000, 0x3000)]

def isSpace (c : Char) : Bool :=
  whiteSpace.has c

end Stepwise.Unicode
