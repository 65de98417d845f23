/-!
# ColorMarkup.Color.Basic

Opaque colors of 24 bits: one byte each of red, green and blue.
-/

namespace ColorMarkup

/-- A color by its three channels. -/
structure Color where
  red : UInt8
  green : UInt8
  blue : UInt8
deriving DecidableEq, Repr

namespace Color

/-- No light at all. -/
def black : Color := ⟨0, 0, 0⟩

/-- A color whose channels are all the same. -/
def gray (level : UInt8) : Color := ⟨level, level, level⟩

end Color

end ColorMarkup
