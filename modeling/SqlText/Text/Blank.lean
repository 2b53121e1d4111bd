import SqlText.Text.Ranges

/-!
# Blank text

A **blank** is one of the 29 white-space characters of Unicode: the ASCII controls from tab to
carriage return and from file separator to unit separator, the spaces of every width, and the
line and paragraph separators. The zero-width characters U+200B and U+FEFF are no blanks. A text
is blank when nothing is left of it after trimming, which is to say that every character of it
is a blank.
-/

namespace SqlText.Text

/-- The code points of the blanks. -/
def blankRanges : List (Nat × Nat) :=
  [(0x09, 0x0D), (0x1C, 0x20), (0x85, 0x85), (0xA0, 0xA0), (0x1680, 0x1680), (0x2000, 0x200A),
   (0x2028, 0x2029), (0x202F, 0x202F), (0x205F, 0x205F), (0x3000, 0x3000)]

/-- Whether a character is a blank. -/
def isBlankChar (c : Char) : Bool := inRanges blankRanges c.toNat

/-- Whether a text holds blanks only. -/
def isBlankText (s : String) : Bool := s.toList.all isBlankChar

/-- The characters without the blanks at either end. -/
def trimBlanks (cs : List Char) : List Char :=
  ((cs.dropWhile isBlankChar).reverse.dropWhile isBlankChar).reverse

/-- Nothing is left without the blanks in front where every character is a blank, and only
there. -/
theorem dropBlanks_eq_nil_iff {cs : List Char} :
    cs.dropWhile isBlankChar = [] ↔ ∀ c ∈ cs, isBlankChar c = true := by
  induction cs with
  | nil => simp
  | cons c rest ih => by_cases h : isBlankChar c = true <;> simp [h, ih]

end SqlText.Text
