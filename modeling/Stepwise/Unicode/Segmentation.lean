import Stepwise.Unicode.Binary
import Stepwise.Unicode.Script

/-!
# Segmentation

The classes by which texts are cut into what is perceived as a character, into words and
into sentences. A character belongs to one class of each kind at most.
-/

namespace Stepwise.Unicode

open Category

set_option maxRecDepth 20000

/-- Consonants that are written before the cluster they belong to. -/
def precedingConsonant : Ranges :=
  [(0xd4e, 0xd4e), (0x111c2, 0x111c3), (0x113d1, 0x113d1), (0x1193f, 0x1193f), (0x11941, 0x11941),
   (0x11a3a, 0x11a3a), (0x11a84, 0x11a89), (0x11d46, 0x11d46), (0x11f02, 0x11f02)]

/-- Spacing marks that do not belong to the cluster before them. -/
def detachedMark : Ranges :=
  [(0x102b, 0x102c), (0x1038, 0x1038), (0x1062, 0x1064), (0x1067, 0x106d), (0x1083, 0x1083),
   (0x1087, 0x108c), (0x108f, 0x108f), (0x109a, 0x109c), (0x1a61, 0x1a61), (0x1a63, 0x1a64),
   (0xaa7b, 0xaa7b), (0xaa7d, 0xaa7d), (0x11720, 0x11721)]

/-- The characters of the script of a given code. -/
def ofScript (code : String) : Ranges :=
  ((script? code).map (·.2)).getD []

def clusterExtend : Ranges :=
  graphemeExtend.union emojiModifier

/-- Hangul syllables without a final consonant. -/
def openSyllable : Ranges :=
  (List.range 399).map fun i => (0xac00 + 28 * i, 0xac00 + 28 * i)

def hangulSyllable : Ranges :=
  [(0xac00, 0xd7a3)]

/-- Vowels of Kirat Rai that join as those of Hangul do. -/
def kiratVowel : Ranges :=
  [(0x16d63, 0x16d63), (0x16d67, 0x16d6a)]

/-- The classes of characters in clusters under their names. -/
def clusterClasses : List (List String × Ranges) :=
  [(["cr"], [(0xd, 0xd)]),
   (["lf"], [(0xa, 0xa)]),
   (["cn", "control"],
    (Ranges.unionAll
        [lineSeparator, paragraphSeparator, control, format,
          unassigned.inter defaultIgnorable]).diff
      (.unionAll
        [[(0xa, 0xa), (0xd, 0xd), (0x200c, 0x200d)], prependedMark, clusterExtend])),
   (["ex", "extend"], clusterExtend),
   (["zwj"], [(0x200d, 0x200d)]),
   (["ri", "regionalindicator"], regionalIndicator),
   (["pp", "prepend"], prependedMark.union precedingConsonant),
   (["sm", "spacingmark"],
    (spacingMark.union [(0xe33, 0xe33), (0xeb3, 0xeb3)]).diff
      (.unionAll [clusterExtend, detachedMark, kiratVowel])),
   (["l"], [(0x1100, 0x115f), (0xa960, 0xa97c)]),
   (["v"], Ranges.union [(0x1160, 0x11a7), (0xd7b0, 0xd7c6)] kiratVowel),
   (["t"], [(0x11a8, 0x11ff), (0xd7cb, 0xd7fb)]),
   (["lv"], openSyllable),
   (["lvt"], hangulSyllable.diff openSyllable)]

/-- Letters and digits of scripts that do not separate words by spaces. -/
def unspacedLetter : Ranges :=
  [(0xe01, 0xe3a), (0xe40, 0xe4e), (0xe81, 0xe82), (0xe84, 0xe84), (0xe86, 0xe8a), (0xe8c, 0xea3),
   (0xea5, 0xea5), (0xea7, 0xebd), (0xec0, 0xec4), (0xec6, 0xec6), (0xec8, 0xece), (0xedc, 0xedf),
   (0x1000, 0x103f), (0x1050, 0x108f), (0x109a, 0x109f), (0x1780, 0x17d3), (0x17d7, 0x17d7),
   (0x17dc, 0x17dd), (0x1950, 0x196d), (0x1970, 0x1974), (0x1980, 0x19ab), (0x19b0, 0x19c9),
   (0x19da, 0x19da), (0x19de, 0x19df), (0x1a20, 0x1a5e), (0x1a60, 0x1a7c), (0x1aa0, 0x1aad),
   (0xa9e0, 0xa9ef), (0xa9fa, 0xa9fe), (0xaa60, 0xaac2), (0xaadb, 0xaadf), (0x11700, 0x1171a),
   (0x1171d, 0x1172b), (0x1173a, 0x1173b), (0x1173f, 0x11746)]

/-- Characters that are part of words as letters are, but not alphabetic. -/
def otherWordLetter : Ranges :=
  [(0x2c2, 0x2c5), (0x2d2, 0x2d7), (0x2de, 0x2df), (0x2e5, 0x2eb), (0x2ed, 0x2ed), (0x2ef, 0x2ff),
   (0x55a, 0x55c), (0x55e, 0x55e), (0x58a, 0x58a), (0x5f3, 0x5f3), (0x70f, 0x70f),
   (0xa708, 0xa716), (0xa720, 0xa721), (0xa789, 0xa78a), (0xab5b, 0xab5b)]

/-- Digits, numbers and the marks around them. -/
def numeric : Ranges :=
  .unionAll
    [decimalNumber,
      [(0x600, 0x605), (0x66b, 0x66c), (0x6dd, 0x6dd), (0x890, 0x891), (0x8e2, 0x8e2),
        (0x110bd, 0x110bd), (0x110cd, 0x110cd)]]

def wordNumeric : Ranges :=
  numeric.diff [(0x66c, 0x66c)]

def wordExtend : Ranges :=
  clusterExtend.union spacingMark

def katakana : Ranges :=
  .unionAll
    [ofScript "kana",
      [(0x3031, 0x3035), (0x309b, 0x309c), (0x30a0, 0x30a0), (0x30fc, 0x30fc),
        (0xff70, 0xff70)]]

def hebrewLetter : Ranges :=
  (ofScript "hebr").inter otherLetter

/-- The classes of characters in words under their names. -/
def wordClasses : List (List String × Ranges) :=
  [(["cr"], [(0xd, 0xd)]),
   (["lf"], [(0xa, 0xa)]),
   (["nl", "newline"], [(0xb, 0xc), (0x85, 0x85), (0x2028, 0x2029)]),
   (["extend"], wordExtend),
   (["zwj"], [(0x200d, 0x200d)]),
   (["ri", "regionalindicator"], regionalIndicator),
   (["fo", "format"],
    format.diff
      (.unionAll [[(0x70f, 0x70f), (0x200b, 0x200d)], wordExtend, wordNumeric])),
   (["ka", "katakana"], katakana),
   (["hl", "hebrewletter"], hebrewLetter),
   (["le", "aletter"],
    (alphabetic.union otherWordLetter).diff
      (.unionAll
        [ideographic, katakana, unspacedLetter, ofScript "hira", wordExtend, hebrewLetter,
          wordNumeric])),
   (["sq", "singlequote"], [(0x27, 0x27)]),
   (["dq", "doublequote"], [(0x22, 0x22)]),
   (["mb", "midnumlet"],
    [(0x2e, 0x2e), (0x2018, 0x2019), (0x2024, 0x2024), (0xfe52, 0xfe52), (0xff07, 0xff07),
     (0xff0e, 0xff0e)]),
   (["ml", "midletter"],
    [(0x3a, 0x3a), (0xb7, 0xb7), (0x387, 0x387), (0x55f, 0x55f), (0x5f4, 0x5f4), (0x2027, 0x2027),
     (0xfe13, 0xfe13), (0xfe55, 0xfe55), (0xff1a, 0xff1a)]),
   (["mn", "midnum"],
    [(0x2c, 0x2c), (0x3b, 0x3b), (0x37e, 0x37e), (0x589, 0x589), (0x60c, 0x60d), (0x66c, 0x66c),
     (0x7f8, 0x7f8), (0x2044, 0x2044), (0xfe10, 0xfe10), (0xfe14, 0xfe14), (0xfe50, 0xfe50),
     (0xfe54, 0xfe54), (0xff0c, 0xff0c), (0xff1b, 0xff1b)]),
   (["nu", "numeric"], wordNumeric),
   (["ex", "extendnumlet"], connectorPunctuation.union [(0x202f, 0x202f)]),
   (["wsegspace"],
    spaceSeparator.diff [(0xa0, 0xa0), (0x2007, 0x2007), (0x202f, 0x202f)])]

def sentenceExtend : Ranges :=
  .unionAll [graphemeExtend, spacingMark, [(0x200d, 0x200d)]]

/-- Lowercase letters of scripts with two cases. -/
def sentenceLower : Ranges :=
  lowercase.diff (graphemeExtend.union [(0x10d0, 0x10fa), (0x10fd, 0x10ff)])

/-- Uppercase and titlecase letters of scripts with two cases. -/
def sentenceUpper : Ranges :=
  (titlecaseLetter.union uppercase).diff [(0x1c90, 0x1cba), (0x1cbd, 0x1cbf)]

/-- Digits and numbers in sentences. -/
def sentenceNumeric : Ranges :=
  numeric

/-- Full stops, which may also end an abbreviation. -/
def fullStop : Ranges :=
  [(0x2e, 0x2e), (0x2024, 0x2024), (0xfe52, 0xfe52), (0xff0e, 0xff0e)]

/-- The classes of characters in sentences under their names. -/
def sentenceClasses : List (List String × Ranges) :=
  [(["cr"], [(0xd, 0xd)]),
   (["lf"], [(0xa, 0xa)]),
   (["se", "sep"], [(0x85, 0x85), (0x2028, 0x2029)]),
   (["ex", "extend"], sentenceExtend),
   (["fo", "format"],
    format.diff (.unionAll [[(0x200c, 0x200d)], sentenceExtend, sentenceNumeric])),
   (["sp"],
    whiteSpace.diff [(0xa, 0xa), (0xd, 0xd), (0x85, 0x85), (0x2028, 0x2029)]),
   (["lo", "lower"], sentenceLower),
   (["up", "upper"], sentenceUpper),
   (["le", "oletter"],
    (alphabetic.union [(0x5f3, 0x5f3)]).diff
      (.unionAll [sentenceLower, sentenceUpper, sentenceExtend, sentenceNumeric])),
   (["nu", "numeric"], sentenceNumeric),
   (["at", "aterm"], fullStop),
   (["st", "sterm"], sentenceTerminal.diff fullStop),
   (["sc", "scontinue"],
    [(0x2c, 0x2d), (0x3a, 0x3b), (0x37e, 0x37e), (0x55d, 0x55d), (0x60c, 0x60d), (0x7f8, 0x7f8),
     (0x1802, 0x1802), (0x1808, 0x1808), (0x2013, 0x2014), (0x3001, 0x3001), (0xfe10, 0xfe11),
     (0xfe13, 0xfe14), (0xfe31, 0xfe32), (0xfe50, 0xfe51), (0xfe54, 0xfe55), (0xfe58, 0xfe58),
     (0xfe63, 0xfe63), (0xff0c, 0xff0d), (0xff1a, 0xff1b), (0xff64, 0xff64)]),
   (["cl", "close"],
    (Ranges.unionAll
        [openPunctuation, closePunctuation, initialPunctuation, finalPunctuation,
          [(0x22, 0x22), (0x27, 0x27), (0x275b, 0x2760), (0x2e00, 0x2e01), (0x2e06, 0x2e08),
           (0x2e0b, 0x2e0b), (0x1f676, 0x1f678)]]).diff
      (.unionAll [[(0x5f3, 0x5f3)], fullStop, sentenceTerminal]))]

/-- The characters of a class, of which the name is written in lower case without
underscores. -/
def classOf? (classes : List (List String × Ranges)) (name : String) : Option Ranges :=
  (classes.find? (·.1.contains name)).map (·.2)

end Stepwise.Unicode
