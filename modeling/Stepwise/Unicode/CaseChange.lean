import Stepwise.Unicode.Alphabetic
import Stepwise.Unicode.CaseFold

/-!
# Changes of case

The characters that change when a text is written in lower case, in upper case, with
capital initials or without regard to case. Mostly they are those that folding changes
or leads to; the few that differ are listed.
-/

namespace Stepwise.Unicode

set_option maxRecDepth 20000

/-- Characters that folding by several characters changes, but folding by one does not. -/
def expandedByFolding : Ranges :=
  [(0xdf, 0xdf), (0x130, 0x130), (0x149, 0x149), (0x587, 0x587), (0x1e9a, 0x1e9a),
   (0x1f80, 0x1f87), (0x1f90, 0x1f97), (0x1fa0, 0x1fa7), (0x1fb2, 0x1fb4), (0x1fb7, 0x1fb7),
   (0x1fc2, 0x1fc4), (0x1fc7, 0x1fc7), (0x1ff2, 0x1ff4), (0x1ff7, 0x1ff7), (0xfb00, 0xfb04),
   (0xfb06, 0xfb06), (0xfb13, 0xfb17)]

/-- Characters that do not change once they are decomposed. -/
def foldedDecomposed : Ranges :=
  [(0x1fbe, 0x1fbe), (0x1fd3, 0x1fd3), (0x1fe3, 0x1fe3)]

def changesWhenCasefolded : Ranges :=
  (foldSources.diff foldedDecomposed).union expandedByFolding

/-- Lowercase characters and marks that folding changes. -/
def foldedToUppercase : Ranges :=
  [(0xb5, 0xb5), (0x17f, 0x17f), (0x345, 0x345), (0x3c2, 0x3c2), (0x3d0, 0x3d1), (0x3d5, 0x3d6),
   (0x3f0, 0x3f1), (0x3f5, 0x3f5), (0x13f8, 0x13fd), (0x1c80, 0x1c88), (0x1e9b, 0x1e9b),
   (0x1fbe, 0x1fbe), (0x1fd3, 0x1fd3), (0x1fe3, 0x1fe3), (0xab70, 0xabbf), (0xfb05, 0xfb05)]

/-- Characters that have a lowercase form, but do not fold to it. -/
def otherLowercased : Ranges :=
  [(0x130, 0x130), (0x13a0, 0x13f5)]

def changesWhenLowercased : Ranges :=
  (foldSources.diff foldedToUppercase).union otherLowercased

/-- Uppercase characters that others fold to. -/
def uppercaseTargets : Ranges :=
  [(0x13a0, 0x13f5)]

/-- Characters that have an uppercase form which does not fold to them. -/
def otherUppercased : Ranges :=
  [(0xb5, 0xb5), (0x131, 0x131), (0x149, 0x149), (0x17f, 0x17f), (0x1c5, 0x1c5), (0x1c8, 0x1c8),
   (0x1cb, 0x1cb), (0x1f0, 0x1f0), (0x1f2, 0x1f2), (0x345, 0x345), (0x3c2, 0x3c2), (0x3d0, 0x3d1),
   (0x3d5, 0x3d6), (0x3f0, 0x3f1), (0x3f5, 0x3f5), (0x587, 0x587), (0x13f8, 0x13fd),
   (0x1c80, 0x1c88), (0x1e96, 0x1e9b), (0x1f50, 0x1f50), (0x1f52, 0x1f52), (0x1f54, 0x1f54),
   (0x1f56, 0x1f56), (0x1f88, 0x1f8f), (0x1f98, 0x1f9f), (0x1fa8, 0x1faf), (0x1fb2, 0x1fb2),
   (0x1fb4, 0x1fb4), (0x1fb6, 0x1fb7), (0x1fbc, 0x1fbc), (0x1fbe, 0x1fbe), (0x1fc2, 0x1fc2),
   (0x1fc4, 0x1fc4), (0x1fc6, 0x1fc7), (0x1fcc, 0x1fcc), (0x1fd2, 0x1fd3), (0x1fd6, 0x1fd7),
   (0x1fe2, 0x1fe4), (0x1fe6, 0x1fe7), (0x1ff2, 0x1ff2), (0x1ff4, 0x1ff4), (0x1ff6, 0x1ff7),
   (0x1ffc, 0x1ffc), (0xab70, 0xabbf), (0xfb00, 0xfb05), (0xfb13, 0xfb17)]

def changesWhenUppercased : Ranges :=
  (foldTargets.diff uppercaseTargets).union otherUppercased

/-- Characters with an uppercase form that stay as they are at the start of a word. -/
def titlecaseAlready : Ranges :=
  [(0x1c5, 0x1c5), (0x1c8, 0x1c8), (0x1cb, 0x1cb), (0x1f2, 0x1f2), (0x10d0, 0x10fa),
   (0x10fd, 0x10ff), (0x1f88, 0x1f8f), (0x1f98, 0x1f9f), (0x1fa8, 0x1faf), (0x1fbc, 0x1fbc),
   (0x1fcc, 0x1fcc), (0x1ffc, 0x1ffc)]

/-- Uppercase characters that have another form at the start of a word. -/
def titlecasedOnly : Ranges :=
  [(0x1c4, 0x1c4), (0x1c7, 0x1c7), (0x1ca, 0x1ca), (0x1f1, 0x1f1)]

/-- Characters that change at the start of a word with a capital initial. -/
def changesWhenTitlecased : Ranges :=
  (changesWhenUppercased.diff titlecaseAlready).union titlecasedOnly

/-- Characters that change in lower case, in upper case or as initials. -/
def changesWhenCasemapped : Ranges :=
  .unionAll [changesWhenLowercased, changesWhenUppercased, changesWhenTitlecased]

end Stepwise.Unicode
