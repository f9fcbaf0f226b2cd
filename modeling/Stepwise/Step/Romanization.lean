/-!
# Romanization

How texts beyond ASCII are written in ASCII. Main statement: a text of ASCII stays as it
is.
-/

namespace Stepwise.Step

set_option maxRecDepth 20000 in
/-- The romanization of code points, in ascending order. -/
def romanizations : List (Nat × String) :=
  [(0x85, ""), (0xa0, " "), (0xa1, "!"), (0xa2, "C/"), (0xa3, "PS"), (0xa4, "$?"), (0xa5, "Y="),
   (0xa6, "|"), (0xa7, "SS"), (0xa8, "\""), (0xa9, "(c)"), (0xaa, "a"), (0xab, "<<"), (0xac, "!"),
   (0xad, ""), (0xae, "(r)"), (0xaf, "-"), (0xb0, "deg"), (0xb1, "+-"), (0xb2, "2"), (0xb3, "3"),
   (0xb4, "'"), (0xb5, "u"), (0xb6, "P"), (0xb7, "*"), (0xb8, ","), (0xb9, "1"), (0xba, "o"),
   (0xbb, ">>"), (0xbc, "1/4"), (0xbd, "1/2"), (0xbe, "3/4"), (0xbf, "?"), (0xc0, "A"), (0xc1,
   "A"), (0xc2, "A"), (0xc3, "A"), (0xc4, "A"), (0xc5, "A"), (0xc6, "AE"), (0xc7, "C"), (0xc8,
   "E"), (0xc9, "E"), (0xca, "E"), (0xcb, "E"), (0xcc, "I"), (0xcd, "I"), (0xce, "I"), (0xcf,
   "I"), (0xd0, "D"), (0xd1, "N"), (0xd2, "O"), (0xd3, "O"), (0xd4, "O"), (0xd5, "O"), (0xd6,
   "O"), (0xd7, "x"), (0xd8, "O"), (0xd9, "U"), (0xda, "U"), (0xdb, "U"), (0xdc, "U"), (0xdd,
   "Y"), (0xde, "Th"), (0xdf, "ss"), (0xe0, "a"), (0xe1, "a"), (0xe2, "a"), (0xe3, "a"), (0xe4,
   "a"), (0xe5, "a"), (0xe6, "ae"), (0xe7, "c"), (0xe8, "e"), (0xe9, "e"), (0xea, "e"), (0xeb,
   "e"), (0xec, "i"), (0xed, "i"), (0xee, "i"), (0xef, "i"), (0xf0, "d"), (0xf1, "n"), (0xf2,
   "o"), (0xf3, "o"), (0xf4, "o"), (0xf5, "o"), (0xf6, "o"), (0xf7, "/"), (0xf8, "o"), (0xf9,
   "u"), (0xfa, "u"), (0xfb, "u"), (0xfc, "u"), (0xfd, "y"), (0xfe, "th"), (0xff, "y"), (0x100,
   "A"), (0x101, "a"), (0x102, "A"), (0x103, "a"), (0x104, "A"), (0x105, "a"), (0x106, "C"),
   (0x107, "c"), (0x108, "C"), (0x109, "c"), (0x10a, "C"), (0x10b, "c"), (0x10c, "C"), (0x10d,
   "c"), (0x10e, "D"), (0x10f, "d"), (0x110, "D"), (0x111, "d"), (0x112, "E"), (0x113, "e"),
   (0x114, "E"), (0x115, "e"), (0x116, "E"), (0x117, "e"), (0x118, "E"), (0x119, "e"), (0x11a,
   "E"), (0x11b, "e"), (0x11c, "G"), (0x11d, "g"), (0x11e, "G"), (0x11f, "g"), (0x120, "G"),
   (0x121, "g"), (0x122, "G"), (0x123, "g"), (0x124, "H"), (0x125, "h"), (0x126, "H"), (0x127,
   "h"), (0x128, "I"), (0x129, "i"), (0x12a, "I"), (0x12b, "i"), (0x12c, "I"), (0x12d, "i"),
   (0x12e, "I"), (0x12f, "i"), (0x130, "I"), (0x131, "i"), (0x132, "IJ"), (0x133, "ij"), (0x134,
   "J"), (0x135, "j"), (0x136, "K"), (0x137, "k"), (0x138, "k"), (0x139, "L"), (0x13a, "l"),
   (0x13b, "L"), (0x13c, "l"), (0x13d, "L"), (0x13e, "l"), (0x13f, "L"), (0x140, "l"), (0x141,
   "L"), (0x142, "l"), (0x143, "N"), (0x144, "n"), (0x145, "N"), (0x146, "n"), (0x147, "N"),
   (0x148, "n"), (0x149, "'n"), (0x14a, "ng"), (0x14b, "NG"), (0x14c, "O"), (0x14d, "o"), (0x14e,
   "O"), (0x14f, "o"), (0x150, "O"), (0x151, "o"), (0x152, "OE"), (0x153, "oe"), (0x154, "R"),
   (0x155, "r"), (0x156, "R"), (0x157, "r"), (0x158, "R"), (0x159, "r"), (0x15a, "S"), (0x15b,
   "s"), (0x15c, "S"), (0x15d, "s"), (0x15e, "S"), (0x15f, "s"), (0x160, "S"), (0x161, "s"),
   (0x162, "T"), (0x163, "t"), (0x164, "T"), (0x165, "t"), (0x166, "T"), (0x167, "t"), (0x168,
   "U"), (0x169, "u"), (0x16a, "U"), (0x16b, "u"), (0x16c, "U"), (0x16d, "u"), (0x16e, "U"),
   (0x16f, "u"), (0x170, "U"), (0x171, "u"), (0x172, "U"), (0x173, "u"), (0x174, "W"), (0x175,
   "w"), (0x176, "Y"), (0x177, "y"), (0x178, "Y"), (0x179, "Z"), (0x17a, "z"), (0x17b, "Z"),
   (0x17c, "z"), (0x17d, "Z"), (0x17e, "z"), (0x17f, "s"), (0x1c4, "DZ"), (0x1c5, "Dz"), (0x1c6,
   "dz"), (0x301, ""), (0x303, ""), (0x391, "A"), (0x392, "B"), (0x393, "G"), (0x394, "D"),
   (0x395, "E"), (0x396, "Z"), (0x397, "E"), (0x398, "Th"), (0x399, "I"), (0x39a, "K"), (0x39b,
   "L"), (0x39c, "M"), (0x39d, "N"), (0x39e, "Ks"), (0x39f, "O"), (0x3a0, "P"), (0x3a1, "R"),
   (0x3a3, "S"), (0x3a4, "T"), (0x3a5, "U"), (0x3a6, "Ph"), (0x3a7, "Kh"), (0x3a8, "Ps"), (0x3a9,
   "O"), (0x3aa, "I"), (0x3ab, "U"), (0x3ac, "a"), (0x3ad, "e"), (0x3ae, "e"), (0x3af, "i"),
   (0x3b0, "u"), (0x3b1, "a"), (0x3b2, "b"), (0x3b3, "g"), (0x3b4, "d"), (0x3b5, "e"), (0x3b6,
   "z"), (0x3b7, "e"), (0x3b8, "th"), (0x3b9, "i"), (0x3ba, "k"), (0x3bb, "l"), (0x3bc, "m"),
   (0x3bd, "n"), (0x3be, "x"), (0x3bf, "o"), (0x3c0, "p"), (0x3c1, "r"), (0x3c2, "s"), (0x3c3,
   "s"), (0x3c4, "t"), (0x3c5, "u"), (0x3c6, "ph"), (0x3c7, "kh"), (0x3c8, "ps"), (0x3c9, "o"),
   (0x404, "E"), (0x410, "A"), (0x411, "B"), (0x412, "V"), (0x413, "G"), (0x414, "D"), (0x415,
   "E"), (0x416, "Zh"), (0x417, "Z"), (0x418, "I"), (0x419, "I"), (0x41a, "K"), (0x41b, "L"),
   (0x41c, "M"), (0x41d, "N"), (0x41e, "O"), (0x41f, "P"), (0x420, "R"), (0x421, "S"), (0x422,
   "T"), (0x423, "U"), (0x424, "F"), (0x425, "Kh"), (0x426, "Ts"), (0x427, "Ch"), (0x428, "Sh"),
   (0x429, "Shch"), (0x42a, "'"), (0x42b, "Y"), (0x42c, "'"), (0x42d, "E"), (0x42e, "Iu"), (0x42f,
   "Ia"), (0x430, "a"), (0x431, "b"), (0x432, "v"), (0x433, "g"), (0x434, "d"), (0x435, "e"),
   (0x436, "zh"), (0x437, "z"), (0x438, "i"), (0x439, "i"), (0x43a, "k"), (0x43b, "l"), (0x43c,
   "m"), (0x43d, "n"), (0x43e, "o"), (0x43f, "p"), (0x440, "r"), (0x441, "s"), (0x442, "t"),
   (0x443, "u"), (0x444, "f"), (0x445, "kh"), (0x446, "ts"), (0x447, "ch"), (0x448, "sh"), (0x449,
   "shch"), (0x44a, "'"), (0x44b, "y"), (0x44c, "'"), (0x44d, "e"), (0x44e, "iu"), (0x44f, "ia"),
   (0x457, "yi"), (0x5d5, "v"), (0x5dc, "l"), (0x5dd, "m"), (0x5e9, "sh"), (0x627, ""), (0x628,
   "b"), (0x62d, "H"), (0x631, "r"), (0x645, "m"), (0x663, "3"), (0x664, "4"), (0x924, "t"),
   (0x928, "n"), (0x92e, "m"), (0x938, "s"), (0x947, "e"), (0x94d, ""), (0xe14, "d"), (0xe27,
   "w"), (0xe2a, "s"), (0xe31, "a"), (0xe35, "ii"), (0x1e9e, "Ss"), (0x2003, " "), (0x200b, " "),
   (0x200d, ""), (0x2013, "-"), (0x2014, "--"), (0x2018, "'"), (0x2019, "'"), (0x201c, "\""),
   (0x201d, "\""), (0x2026, "..."), (0x2028, "\n"), (0x2029, "\n\n"), (0x202e, ""), (0x2116,
   "No"), (0x2122, "tm"), (0x2160, "I"), (0x2161, "II"), (0x2162, "III"), (0x24d0, "a"), (0x24d1,
   "b"), (0x24d2, "c"), (0x2603, "snowman "), (0x2764, "heart"), (0x3000, " "), (0x3044, "i"),
   (0x3052, "ge"), (0x307e, "ma"), (0x3093, "n"), (0x30b9, "su"), (0x30c6, "te"), (0x30c8, "to"),
   (0x4e2d, "Zhong "), (0x4eac, "Jing "), (0x4eba, "Ren "), (0x5317, "Bei "), (0x56fd, "Guo "),
   (0x65e5, "Ri "), (0x672c, "Ben "), (0x8336, "Cha "), (0x8a9e, "Yu "), (0xad6d, "gug"), (0xc5b4,
   "eo"), (0xd55c, "han"), (0xfb01, "fi"), (0xfb02, "fl"), (0xfb03, "ffi"), (0xfe0f, ""), (0xfeff,
   ""), (0xff11, "1"), (0xff12, "2"), (0xff21, "A"), (0xff42, "b"), (0xff43, "c"),
   (0x1f431, "cat "), (0x1f436, "dog "), (0x1f600, "grinning ")]

/-- Whether a character stands for itself wherever it is. -/
def isPlain (c : Char) : Bool :=
  0x20 ≤ c.toNat && c.toNat < 0x7f

/-- Whether a character belongs to ASCII, other than the delete control. -/
def isBasic (c : Char) : Bool :=
  c.toNat < 0x7f

/-- A character in ASCII. Controls vanish; a character that nothing is known about
becomes a bracketed question mark. -/
def romanizeChar (c : Char) : List Char :=
  if isPlain c then [c]
  else if c.toNat ≤ 0x7f then []
  else
    match romanizations.lookup c.toNat with
    | some text => text.toList
    | none => ['[', '?', ']']

/-- A text in ASCII. Its controls stay as they are unless they follow a character that
needs romanization. -/
def romanize (text : List Char) : List Char :=
  text.takeWhile isBasic ++ (text.dropWhile isBasic).flatMap romanizeChar

/-- A text of ASCII stays as it is. -/
theorem romanize_basic {text : List Char} (h : ∀ c ∈ text, isBasic c = true) :
    romanize text = text := by
  have last : text.dropWhile isBasic = [] := by
    induction text with
    | nil => rfl
    | cons c rest ih =>
        rw [List.dropWhile_cons_of_pos (h c List.mem_cons_self)]
        exact ih fun d hd => h d (List.mem_cons_of_mem c hd)
  have all := List.takeWhile_append_dropWhile (p := isBasic) (l := text)
  rw [last, List.append_nil] at all
  rw [romanize, last, List.flatMap_nil, List.append_nil, all]

end Stepwise.Step
