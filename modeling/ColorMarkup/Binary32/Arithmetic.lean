import ColorMarkup.Binary32.Rounding

/-!
# ColorMarkup.Binary32.Arithmetic

Arithmetic of the format.  On finite numbers every operation is the exact
result, rounded once.  Infinities follow the standard: what has no meaningful
result is not a number, and neither is what is computed from such a result.
A zero keeps the sign that the operands give it.
-/

namespace ColorMarkup.Binary32

/-! ## Sums, products, quotients -/

/-- The sum.  An exact zero is negative only if both operands are. -/
def add (x y : Binary32) : Binary32 :=
  if x.isNaN || y.isNaN then nan
  else if x.isInfinite then
    if y.isInfinite && x.negative != y.negative then nan else x
  else if y.isInfinite then y
  else
    let exact := x.value + y.value
    if exact = 0 then zero (x.negative && y.negative) else ofRat exact

instance : Add Binary32 := ⟨add⟩

/-- The difference. -/
def sub (x y : Binary32) : Binary32 := x + -y

instance : Sub Binary32 := ⟨sub⟩

/-- The product.  It is negative if the signs differ. -/
def mul (x y : Binary32) : Binary32 :=
  let negative := x.negative != y.negative
  if x.isNaN || y.isNaN then nan
  else if x.isInfinite || y.isInfinite then
    if x.isZero || y.isZero then nan else infinity negative
  else roundSize negative (x.value * y.value)

instance : Mul Binary32 := ⟨mul⟩

/-- The quotient.  It is negative if the signs differ. -/
def div (x y : Binary32) : Binary32 :=
  let negative := x.negative != y.negative
  if x.isNaN || y.isNaN then nan
  else if x.isInfinite then
    if y.isInfinite then nan else infinity negative
  else if y.isInfinite then zero negative
  else if y.isZero then
    if x.isZero then nan else infinity negative
  else roundSize negative (x.value / y.value)

instance : Div Binary32 := ⟨div⟩

/-! ## Whole numbers -/

/-- The greatest whole number that is not above. -/
def floor (x : Binary32) : Binary32 :=
  if x.isFinite then roundSize x.negative (x.value.floor : Rat) else x

/-- The nearest whole number, a half going away from zero. -/
def round (x : Binary32) : Binary32 :=
  if x.isFinite then
    roundSize x.negative (((if x.negative then -x.value else x.value) + 1 / 2).floor : Rat)
  else x

/-- The whole number below a number, held between zero and a limit; zero for
what is not a number. -/
def saturate (limit : Nat) (x : Binary32) : Nat :=
  if x.isNaN || x.negative then 0
  else if x.isInfinite then limit
  else min x.value.floor.toNat limit

/-- The remainder of a division by one, in the direction of zero. -/
def fraction (x : Binary32) : Binary32 :=
  if x.isFinite then
    let size := if x.negative then -x.value else x.value
    roundSize x.negative (size - (size.floor : Rat))
  else nan

/-- The remainder of a division by one that is not negative.  A negative
fraction is completed to one, which rounds to one itself if it is tiny. -/
def cycle (x : Binary32) : Binary32 :=
  let rest := x.fraction
  if rest.lt (zero false) then rest + one else rest

/-! ## Bounds -/

/-- The number held between two others; what is not a number stays so. -/
def clamp (low high x : Binary32) : Binary32 :=
  let raised := if x.lt low then low else x
  if high.lt raised then high else raised

/-- The number held between zero and one; what is not a number becomes
`fallback`. -/
def clampUnit (fallback x : Binary32) : Binary32 :=
  if x.isNaN then fallback else clamp (zero false) one x

end ColorMarkup.Binary32
