import ColorMarkup.Binary32.Arithmetic
import ColorMarkup.Color.Basic

/-!
# ColorMarkup.Color.Hsb

Colors by hue, saturation and brightness.

1. The hue is cyclic: whole turns do not count, and a hue that is not finite
   counts as zero.  Saturation and brightness are held between zero and one,
   and one that is not a number counts as zero.
2. The circle has six sectors.  In each of them one channel is brightest, one
   is darkest and the third moves between them.
3. Without saturation the color is gray, whatever the hue.
-/

namespace ColorMarkup

open Binary32

/-- The number 6. -/
def sixSectors : Binary32 := ofNat 6

/-- The number 255, the most of a channel. -/
def fullChannel : Binary32 := ofNat 255

/-- One half. -/
def oneHalf : Binary32 := ofDecimal 5 1

/-- A channel from a level between zero and one. -/
def channelOfLevel (level : Binary32) : UInt8 :=
  UInt8.ofNat ((level * fullChannel + oneHalf).floor.saturate 255)

/-- The levels of red, green and blue in a sector.  `high` is the brightest
level, `low` the darkest, and the third one either falls or rises through the
sector. -/
def sectorLevels (sector : Nat) (high low falling rising : Binary32) :
    Binary32 × Binary32 × Binary32 :=
  match sector with
  | 0 => (high, rising, low)
  | 1 => (falling, high, low)
  | 2 => (low, high, rising)
  | 3 => (low, falling, high)
  | 4 => (rising, low, high)
  | _ => (high, low, falling)

/-- The color of a hue, a saturation and a brightness. -/
def Color.ofHsb (hue saturation brightness : Binary32) : Color :=
  let s := clampUnit (zero false) saturation
  let v := clampUnit (zero false) brightness
  if s.isZero then gray (channelOfLevel v)
  else
    let turn := if hue.isFinite then hue.cycle else zero false
    let angle := turn * sixSectors
    let sector := angle.floor.saturate 255 % 6
    let f := angle - angle.floor
    let low := v * (one - s)
    let falling := v * (one - s * f)
    let rising := v * (one - s * (one - f))
    let (r, g, b) := sectorLevels sector v low falling rising
    ⟨channelOfLevel r, channelOfLevel g, channelOfLevel b⟩

end ColorMarkup
