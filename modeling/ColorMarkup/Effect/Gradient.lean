import ColorMarkup.Color.Blend
import ColorMarkup.Effect.Basic

/-!
# ColorMarkup.Effect.Gradient

The colors of a gradient.  Each unit of a span has a position along the
stops: the first is at the first stop and, unless the gradient loops, the
last is at the last stop.  A position lies in the segment between two
neighbouring stops, whose colors are blended.
-/

namespace ColorMarkup

open Binary32

/-- How far a unit lies along the whole gradient, between zero and one. -/
def gradientShare (index length : Nat) (looping : Bool) : Binary32 :=
  let steps := if looping then length else length - 1
  let share := if steps = 0 then zero false else ofNat index / ofNat steps
  if looping || share.lt one then share else one

/-- The segment of a position, and how far into the segment it lies. -/
def gradientSegment (position : Binary32) (segments : Nat) : Nat × Binary32 :=
  let segment := position.floor.saturate (segments - 1)
  (segment, clamp (zero false) one (position - ofNat segment))

/-- The color of a unit, given at least two stops. -/
def gradientColor (stops : Array Color) (index length : Nat) (looping : Bool) : Color :=
  let segments := stops.size - 1
  let position := gradientShare index length looping * ofNat segments
  let (segment, fraction) := gradientSegment position segments
  (stops.getD segment .black).blend (stops.getD (segment + 1) .black) fraction

/-- One color for each unit.  No stops give no colors, and a single stop
colors every unit. -/
def gradientColors (length : Nat) (stops : List Color) (looping : Bool) : List Color :=
  match stops with
  | [] => []
  | [only] => List.replicate length only
  | _ =>
    let table := stops.toArray
    (List.range length).map fun index => gradientColor table index length looping

/-- One color for each unit of a span. -/
def Gradient.colors (gradient : Gradient) (length : Nat) : List Color :=
  gradientColors length gradient.stops gradient.looping

/-- With a stop there are as many colors as units. -/
theorem length_gradientColors (length : Nat) {stops : List Color} (h : stops ≠ [])
    (looping : Bool) :
    (gradientColors length stops looping).length = length := by
  unfold gradientColors
  split <;> simp_all

end ColorMarkup
