/-!
# Text, blank characters, and what they separate

Text is a list of characters.  A character is *blank* when it has the Unicode
property `White_Space`; blanks separate the fields of a line and are trimmed
from the two ends of an argument.
-/

namespace Chip8Assembly

/-- Text, character by character. -/
abbrev Text := List Char

namespace Text

/-! ## Blank characters -/

/-- The code points with the property `White_Space`, as closed ranges. -/
def blankRanges : List (Nat × Nat) :=
  [(0x09, 0x0D), (0x20, 0x20), (0x85, 0x85), (0xA0, 0xA0), (0x1680, 0x1680),
   (0x2000, 0x200A), (0x2028, 0x2029), (0x202F, 0x202F), (0x205F, 0x205F),
   (0x3000, 0x3000)]

/-- Whether a code point lies in one of a list of closed ranges. -/
def inRanges (ranges : List (Nat × Nat)) (n : Nat) : Bool :=
  ranges.any fun range => range.1 ≤ n && n ≤ range.2

/-- A character with the property `White_Space`. -/
def isBlank (c : Char) : Bool := inRanges blankRanges c.toNat

/-! ## Fields and edges -/

/-- The maximal runs of characters that are not blank, in order. -/
def fields (t : Text) : List Text :=
  (t.splitOnP isBlank).filter (· ≠ [])

/-- Text without the blanks at its two ends. -/
def trim (t : Text) : Text :=
  ((t.dropWhile isBlank).reverse.dropWhile isBlank).reverse

end Text

end Chip8Assembly
