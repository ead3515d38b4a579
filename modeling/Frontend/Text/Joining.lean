import Frontend.Text.Extending

/-!
# Joining letters

Classes of letters that join the letter before or behind them in one shape, and of the marks that
may stand between the two.
-/

namespace Frontend.Text

/-! ### Marks between letters -/

/-- The code points of extending characters that keep letters from joining. -/
private def separatingRanges : CodeRanges :=
  [(0x9BE, 0x9BE), (0x9D7, 0x9D7), (0xB3E, 0xB3E), (0xB57, 0xB57), (0xBBE, 0xBBE),
   (0xBD7, 0xBD7), (0xCC0, 0xCC0), (0xCC2, 0xCC2), (0xCC7, 0xCC8), (0xCCA, 0xCCB),
   (0xCD5, 0xCD6), (0xD3E, 0xD3E), (0xD57, 0xD57), (0xDCF, 0xDCF), (0xDDF, 0xDDF),
   (0x1715, 0x1715), (0x1734, 0x1734), (0x1B35, 0x1B35), (0x1B3B, 0x1B3B), (0x1B3D, 0x1B3D),
   (0x1B43, 0x1B44), (0x1BAA, 0x1BAA), (0x1BF2, 0x1BF3), (0x200C, 0x200C), (0x2D7F, 0x2D7F),
   (0x302E, 0x302F), (0xA953, 0xA953), (0xA9C0, 0xA9C0), (0xFF9E, 0xFF9F), (0x111C0, 0x111C0),
   (0x11235, 0x11235), (0x1133E, 0x1133E), (0x1134D, 0x1134D), (0x11357, 0x11357),
   (0x113B8, 0x113B8), (0x113C2, 0x113C2), (0x113C5, 0x113C5), (0x113C7, 0x113C9),
   (0x113CF, 0x113CF), (0x114B0, 0x114B0), (0x114BD, 0x114BD), (0x115AF, 0x115AF),
   (0x116B6, 0x116B6), (0x11930, 0x11930), (0x1193D, 0x1193D), (0x11F41, 0x11F41),
   (0x16FF0, 0x16FF1), (0x1D165, 0x1D166), (0x1D16D, 0x1D172)]

/-- The code points of invisible format characters that letters join across. -/
private def joiningFormatRanges : CodeRanges :=
  [(0xAD, 0xAD), (0x61C, 0x61C), (0x70F, 0x70F), (0x200B, 0x200B), (0x200E, 0x200F),
   (0x202A, 0x202E), (0x2060, 0x2064), (0x206A, 0x206F), (0xFEFF, 0xFEFF), (0x1BCA0, 0x1BCA3),
   (0x1D173, 0x1D17A), (0xE0001, 0xE0001)]

/-- A character of no column that Arabic letters join across. -/
def isTransparent (c : Char) : Bool :=
  (isExtending c && !separatingRanges.contains c.toNat) || joiningFormatRanges.contains c.toNat

/-- The code points of combining marks that may be ignored. -/
private def ignorableMarkRanges : CodeRanges :=
  [(0x34F, 0x34F), (0x17B4, 0x17B5), (0x180B, 0x180D), (0x180F, 0x180F), (0xFE00, 0xFE0F),
   (0xE0100, 0xE01EF)]

/-- A combining mark that may be ignored. It does not part the letters of any script. -/
def isIgnorableMark (c : Char) : Bool := ignorableMarkRanges.contains c.toNat

/-! ### Letters -/

/-- The code points of the Arabic letters in the shape of alef. -/
private def alefRanges : CodeRanges :=
  [(0x622, 0x623), (0x625, 0x625), (0x627, 0x627), (0x671, 0x673), (0x675, 0x675),
   (0x773, 0x774), (0x870, 0x882)]

/-- The code points of the Arabic letters in the shape of lam. -/
private def lamRanges : CodeRanges :=
  [(0x644, 0x644), (0x6B5, 0x6B8), (0x76A, 0x76A), (0x8A6, 0x8A6), (0x8C7, 0x8C7)]

/-- The code points of the Khmer letters that have a subscript form. -/
private def subscriptRanges : CodeRanges :=
  [(0x1780, 0x1782), (0x1784, 0x1787), (0x1789, 0x178C), (0x178E, 0x1793), (0x1795, 0x1798),
   (0x179B, 0x179D), (0x17A0, 0x17A0), (0x17A2, 0x17A2), (0x17A7, 0x17A7), (0x17AB, 0x17AC),
   (0x17AF, 0x17AF)]

/-- An Arabic letter in the shape of alef. -/
def isAlef (c : Char) : Bool := alefRanges.contains c.toNat

/-- An Arabic letter in the shape of lam. -/
def isLam (c : Char) : Bool := lamRanges.contains c.toNat

/-- A Khmer letter that is written below the one before it if a coeng sign stands between them. -/
def hasSubscript (c : Char) : Bool := subscriptRanges.contains c.toNat

/-- A Tifinagh consonant that may be written as one with the next. -/
def isTifinaghConsonant (c : Char) : Bool :=
  (0x2D31 ≤ c.toNat && c.toNat ≤ 0x2D65) || c.toNat == 0x2D6F

end Frontend.Text
