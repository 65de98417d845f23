import ColorMarkup.Effect.Gradient
import ColorMarkup.Effect.Rainbow

/-!
# ColorMarkup.Effect.Colors

The colors of an effect, one for each unit of a span.
-/

namespace ColorMarkup

/-- One color for each unit of a span. -/
def Effect.colors (effect : Effect) (length : Nat) : List Color :=
  match effect with
  | .gradient g => g.colors length
  | .rainbow r => r.colors length

end ColorMarkup
