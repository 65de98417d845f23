import ColorMarkup.Binary32.Basic

/-!
# ColorMarkup.Binary32.Rounding

Rounding of exact values to the nearest number of the format, a tie going to
the neighbour whose magnitude is even.

1. `roundHalfEven` rounds a quotient to the nearest whole number.
2. `nearestMagnitude` chooses the spacing of the numbers around the value and
   rounds the value as a multiple of that spacing.  A result that carries
   into the next power of two needs no care: the magnitude carries with it.
3. What rounds to `infinityMagnitude` or beyond is an infinity.
-/

namespace ColorMarkup.Binary32

/-- A quotient rounded to the nearest whole number, a tie to the even one. -/
def roundHalfEven (num den : Nat) : Nat :=
  let floor := num / den
  let excess := 2 * (num % den)
  if excess < den then floor
  else if den < excess then floor + 1
  else floor + floor % 2

/-- The magnitude nearest to a quotient counted in units.  From `0x1000000`
on, the numbers are `1 <<< shift` units apart. -/
def nearestMagnitude (num den : Nat) : Nat :=
  let floor := num / den
  if floor < 0x1000000 then roundHalfEven num den
  else
    let shift := floor.log2 - 23
    shift * 0x800000 + roundHalfEven num (den <<< shift)

/-- The number of a given sign nearest to the size of an exact value. -/
def roundSize (negative : Bool) (exact : Rat) : Binary32 where
  negative := negative
  magnitude := min (nearestMagnitude (exact.num.natAbs * unitsPerOne) exact.den) infinityMagnitude
  magnitude_lt := Nat.lt_of_le_of_lt (Nat.min_le_right _ _) (by decide)

/-- The number nearest to an exact value; zero has the positive sign. -/
def ofRat (exact : Rat) : Binary32 :=
  roundSize (decide (exact < 0)) exact

/-- The number nearest to a count. -/
def ofNat (n : Nat) : Binary32 :=
  ofRat n

/-- The number nearest to a decimal fraction, given by its digits as one
count and by how many of them stand after the point. -/
def ofDecimal (digits places : Nat) : Binary32 :=
  ofRat (mkRat digits (Nat.pow 10 places))

end ColorMarkup.Binary32
