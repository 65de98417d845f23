import ColorMarkup.Binary32.Arithmetic
import ColorMarkup.Color.Basic

/-!
# ColorMarkup.Color.Blend

Colors on the straight line between two colors.  A fraction of zero gives the
start, one the end; the fraction is held between the two, and one that is not
a number counts as zero.
-/

namespace ColorMarkup

open Binary32

/-- The channel at a fraction between zero and one of the way. -/
def blendChannel (start stop : UInt8) (fraction : Binary32) : UInt8 :=
  let low := ofNat start.toNat
  let high := ofNat stop.toNat
  let exact := low + (high - low) * fraction
  UInt8.ofNat (exact.round.saturate 255)

/-- The color at a fraction of the way from one color to another. -/
def Color.blend (start stop : Color) (fraction : Binary32) : Color :=
  let held := clampUnit (zero false) fraction
  { red := blendChannel start.red stop.red held
    green := blendChannel start.green stop.green held
    blue := blendChannel start.blue stop.blue held }

end ColorMarkup
