import ColorMarkup.Color.Hex

/-!
# ColorMarkup.Marker

The marker is the character that announces a code to the host.  A code is
the marker and one character.  A color of its own is written as the code `x`
and a code for each of its six digits.
-/

namespace ColorMarkup

/-- The character that announces a code. -/
structure Marker where
  char : Char
deriving DecidableEq, Repr

namespace Marker

/-- The section sign, which hosts use unless told otherwise. -/
def sectionSign : Marker := ⟨'§'⟩

/-- The marker with one code character. -/
def code (marker : Marker) (c : Char) : List Char :=
  [marker.char, c]

/-- The codes that switch the host to a color. -/
def escape (marker : Marker) (color : Color) : List Char :=
  ('x' :: color.hexDigits).flatMap marker.code

end Marker

end ColorMarkup
