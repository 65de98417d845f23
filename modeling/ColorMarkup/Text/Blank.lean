import ColorMarkup.Text.Basic
import ColorMarkup.Text.Ranges

/-!
# ColorMarkup.Text.Blank

White space: the characters with the Unicode property White_Space.
-/

namespace ColorMarkup.Text

/-- The code points with the property White_Space. -/
def blankRanges : List CodeRange :=
  [⟨0x9, 0xD⟩, ⟨0x20, 0x20⟩, ⟨0x85, 0x85⟩, ⟨0xA0, 0xA0⟩,
   ⟨0x1680, 0x1680⟩, ⟨0x2000, 0x200A⟩, ⟨0x2028, 0x2029⟩, ⟨0x202F, 0x202F⟩,
   ⟨0x205F, 0x205F⟩, ⟨0x3000, 0x3000⟩]

theorem ascending_blankRanges : ascending blankRanges = true := by decide

/-- Whether a character is white space. -/
def isBlank (c : Char) : Bool :=
  inRanges c.toNat blankRanges

/-- Drops the white space at both ends of a text. -/
def trim (text : List Char) : List Char :=
  trimBoth isBlank text

end ColorMarkup.Text
