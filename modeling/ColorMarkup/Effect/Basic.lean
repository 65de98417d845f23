import ColorMarkup.Binary32.Arithmetic
import ColorMarkup.Color.Basic

/-!
# ColorMarkup.Effect.Basic

Effects spread colors over the glyphs of a span.  There are two kinds:

1. a gradient runs through a list of color stops;
2. a rainbow runs through the hues at one saturation and brightness.

Both have a speed and may loop.
-/

namespace ColorMarkup

/-- The kinds of effects. -/
inductive EffectKind where
  | gradient
  | rainbow
deriving DecidableEq, Repr

/-- The name of a kind. -/
def EffectKind.name : EffectKind → List Char
  | .gradient => "gradient".toList
  | .rainbow => "rainbow".toList

/-- A gradient.  Its speed does not affect the colors; a looping gradient
stops one step short of its last stop. -/
structure Gradient where
  stops : List Color
  speed : UInt32 := 0
  looping : Bool := false
deriving DecidableEq, Repr

/-- A rainbow.  A looping one goes through the hues as often as its speed
says, at least once; any other sweeps over them once. -/
structure Rainbow where
  speed : UInt32 := 0
  saturation : Binary32 := .one
  brightness : Binary32 := .one
  looping : Bool := false
deriving DecidableEq, Repr

/-- A rainbow whose saturation and brightness are held between zero and one;
one that is not a number counts as one. -/
def Rainbow.held (speed : UInt32) (saturation brightness : Binary32) (looping : Bool) :
    Rainbow where
  speed := speed
  saturation := Binary32.clampUnit .one saturation
  brightness := Binary32.clampUnit .one brightness
  looping := looping

/-- An effect. -/
inductive Effect where
  | gradient (gradient : Gradient)
  | rainbow (rainbow : Rainbow)
deriving DecidableEq, Repr

/-- The kind of an effect. -/
def Effect.kind : Effect → EffectKind
  | .gradient _ => .gradient
  | .rainbow _ => .rainbow

end ColorMarkup
