/-!
# ColorMarkup.Binary32.Basic

Numbers of the binary32 format: a sign, and a magnitude of 31 bits that holds
the exponent above the fraction.

Magnitudes are ordered like the numbers they stand for, so the magnitude also
serves as the index of a number among those of its sign.  Every finite number
is a whole multiple (`units`) of the least positive one, which is one part in
`unitsPerOne`; `value` is the number as an exact rational.
-/

namespace ColorMarkup

/-- A number of the binary32 format, an infinity, or not a number. -/
structure Binary32 where
  negative : Bool
  magnitude : Nat
  magnitude_lt : magnitude < 0x80000000
deriving DecidableEq, Repr

namespace Binary32

/-! ## Bit patterns -/

/-- The number with a given bit pattern. -/
def ofBits (bits : UInt32) : Binary32 where
  negative := decide (0x80000000 ≤ bits.toNat)
  magnitude := bits.toNat % 0x80000000
  magnitude_lt := Nat.mod_lt _ (by decide)

/-- The bit pattern of a number. -/
def bits (x : Binary32) : UInt32 :=
  UInt32.ofNat ((if x.negative then 0x80000000 else 0) + x.magnitude)

/-- Every number comes back from its bit pattern. -/
theorem ofBits_bits (x : Binary32) : ofBits x.bits = x := by
  obtain ⟨negative, magnitude, h⟩ := x
  cases negative <;> simp [ofBits, bits] <;> omega

/-! ## Kinds of numbers -/

/-- The magnitude of infinity, the first that is not finite. -/
def infinityMagnitude : Nat := 0x7F800000

/-- Whether this is not a number. -/
def isNaN (x : Binary32) : Bool := decide (infinityMagnitude < x.magnitude)

/-- Whether this is an infinity. -/
def isInfinite (x : Binary32) : Bool := decide (x.magnitude = infinityMagnitude)

/-- Whether this is a number other than the infinities. -/
def isFinite (x : Binary32) : Bool := decide (x.magnitude < infinityMagnitude)

/-- Whether this is zero of either sign. -/
def isZero (x : Binary32) : Bool := decide (x.magnitude = 0)

/-- Zero of a given sign. -/
def zero (negative : Bool) : Binary32 := ⟨negative, 0, by decide⟩

/-- Infinity of a given sign. -/
def infinity (negative : Bool) : Binary32 := ⟨negative, infinityMagnitude, by decide⟩

/-- The result of an operation without a meaningful result. -/
def nan : Binary32 := ⟨false, 0x7FC00000, by decide⟩

/-- One. -/
def one : Binary32 := ⟨false, 0x3F800000, by decide⟩

/-- The same number with the opposite sign. -/
def neg (x : Binary32) : Binary32 := { x with negative := !x.negative }

instance : Neg Binary32 := ⟨neg⟩

/-! ## Exact values -/

/-- How many of the least positive numbers make one. -/
def unitsPerOne : Nat := 1 <<< 149

/-- A finite magnitude in multiples of the least positive number.  Below
`0x1000000` the exponent scales nothing; from there on, it doubles the
significand once more with every step. -/
def units (magnitude : Nat) : Nat :=
  if magnitude < 0x1000000 then magnitude
  else (0x800000 + magnitude % 0x800000) <<< (magnitude / 0x800000 - 1)

/-- The exact value of a finite number. -/
def value (x : Binary32) : Rat :=
  let size := (units x.magnitude : Rat) / (unitsPerOne : Rat)
  if x.negative then -size else size

/-! ## Order -/

/-- The place of a number in the order of all numbers; both zeros share one. -/
def rank (x : Binary32) : Int :=
  if x.negative then -(x.magnitude : Int) else x.magnitude

/-- Whether one number is less than another; false if either is not a number. -/
def lt (x y : Binary32) : Bool :=
  !x.isNaN && !y.isNaN && decide (x.rank < y.rank)

end Binary32

end ColorMarkup
