import Frontend.Text.CodeRanges

/-!
# Blank characters

The characters with the property White_Space of Unicode: the space, the tab and the line breaks of
ASCII, and the spaces and separators beyond it.
-/

namespace Frontend.Text

/-- The blank code points. -/
private def blankRanges : CodeRanges :=
  [(0x9, 0xD), (0x20, 0x20), (0x85, 0x85), (0xA0, 0xA0), (0x1680, 0x1680), (0x2000, 0x200A),
   (0x2028, 0x2029), (0x202F, 0x202F), (0x205F, 0x205F), (0x3000, 0x3000)]

/-- A blank character. -/
def isBlank (c : Char) : Bool := blankRanges.contains c.toNat

/-- Every blank of ASCII is a blank. -/
theorem isBlank_of_isWhitespace {c : Char} (h : c.isWhitespace) : isBlank c := by
  simp only [Char.isWhitespace, Bool.or_eq_true, decide_eq_true_eq] at h
  rcases h with ((rfl | rfl) | rfl) | rfl <;> decide

/-- What holds of the blank code points, one by one, holds of every blank. -/
theorem forall_of_isBlank {P : Char → Prop}
    (h : ∀ n ∈ [0x9, 0xA, 0xB, 0xC, 0xD, 0x20, 0x85, 0xA0, 0x1680, 0x2000, 0x2001, 0x2002, 0x2003,
      0x2004, 0x2005, 0x2006, 0x2007, 0x2008, 0x2009, 0x200A, 0x2028, 0x2029, 0x202F, 0x205F,
      0x3000], P (Char.ofNat n)) {c : Char} (hc : isBlank c) : P c := by
  rw [← Char.ofNat_toNat c]
  refine h _ ?_
  simp only [isBlank, blankRanges, CodeRanges.contains, Bool.and_eq_true, Bool.or_eq_true,
    decide_eq_true_eq, Bool.false_eq_true, or_false] at hc
  simp only [List.mem_cons, List.not_mem_nil, or_false]
  omega

end Frontend.Text
