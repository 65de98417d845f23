import ColorMarkup.Color.Hsb
import ColorMarkup.Effect.Basic

/-!
# ColorMarkup.Effect.Rainbow

The colors of a rainbow: a hue for each unit of a span, at the rainbow's
saturation and brightness.
-/

namespace ColorMarkup

open Binary32

/-- The hue of a unit, between zero and one.  A looping rainbow leaves out
whole turns; any other reaches one at the last unit. -/
def Rainbow.hue (rainbow : Rainbow) (index length : Nat) : Binary32 :=
  let units := max length 1
  if rainbow.looping then
    let turns := ofNat (max rainbow.speed.toNat 1)
    (ofNat index / ofNat units * turns).cycle
  else
    let span := ofNat (max (units - 1) 1)
    clamp (zero false) one (ofNat index / span)

/-- One color for each unit of a span. -/
def Rainbow.colors (rainbow : Rainbow) (length : Nat) : List Color :=
  (List.range length).map fun index =>
    Color.ofHsb (rainbow.hue index length) rainbow.saturation rainbow.brightness

/-- There are as many colors as units. -/
@[simp] theorem Rainbow.length_colors (rainbow : Rainbow) (length : Nat) :
    (rainbow.colors length).length = length := by
  simp [colors]

end ColorMarkup
