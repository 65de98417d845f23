import ColorMarkup.Proofs.Binary32.Arithmetic

/-!
# ColorMarkup.Proofs.Binary32.Cycle

What whole turns leave of a number.

1. The fractional part of the size of a number is a value of the format: it
   has no more binary digits than the number (`rounded_fract_abs`).
2. So the remainder of a division by one is exact (`value_fraction`), and only
   the completion of a negative one is rounded.  Whatever the sign, `cycle`
   has the rounded value of the exact fractional part (`value_cycle`).
3. A number that is not negative is not rounded at all, and stays below one
   (`value_cycle_of_nonneg`).
-/

namespace ColorMarkup.Binary32

/-! ## Fractional parts -/

/-- A magnitude stands for at most 24 binary digits, doubled some times. -/
theorem exists_units_eq_mul (magnitude : Nat) :
    ∃ count shift, count ≤ 2 ^ 24 ∧ units magnitude = count * 2 ^ shift := by
  by_cases h : magnitude < 0x1000000
  · exact ⟨magnitude, 0, by omega, by rw [units_of_lt h, Nat.pow_zero, Nat.mul_one]⟩
  · exact ⟨_, _, by omega, units_of_le (by omega)⟩

/-- The fractional part of a size needs no rounding. -/
theorem rounded_fract_abs (x : Binary32) : rounded (Int.fract |x.value|) = Int.fract |x.value| := by
  obtain ⟨count, shift, hcount, hunits⟩ := exists_units_eq_mul x.magnitude
  rw [abs_value, hunits, unitsPerOne_eq, Nat.cast_mul, Nat.cast_pow, Nat.cast_ofNat]
  by_cases h : shift ≤ 149
  · -- The digits below the point are those of the count, and no more.
    have hshare : (count : Rat) * 2 ^ shift / 2 ^ 149 = count / (2 ^ (149 - shift) : Nat) := by
      rw [← Nat.sub_add_cancel h, pow_add, Nat.add_sub_cancel,
        mul_div_mul_right _ _ (by positivity)]
      push_cast
      rfl
    have hrest : count % 2 ^ (149 - shift) ≤ 2 ^ 24 := (Nat.mod_le _ _).trans hcount
    rw [hshare, Int.fract_div_natCast_eq_div_natCast_mod, Nat.cast_pow, Nat.cast_ofNat]
    exact rounded_div_two_pow hrest (Nat.sub_le _ _)
  · -- The number is whole.
    have hwhole : (count : Rat) * 2 ^ shift / 2 ^ 149 = (count * 2 ^ (shift - 149) : Nat) := by
      rw [← Nat.sub_add_cancel (by omega : 149 ≤ shift), pow_add, Nat.add_sub_cancel,
        ← mul_assoc, mul_div_cancel_right₀ _ (by positivity)]
      push_cast
      rfl
    rw [hwhole, Int.fract_natCast, rounded_zero]

/-- Rounding a size does not depend on the sign of the exact value. -/
theorem roundSize_neg (negative : Bool) (exact : Rat) :
    roundSize negative (-exact) = roundSize negative exact := by
  simp [roundSize]

/-! ## Remainders -/

variable {x : Binary32}

theorem fraction_of_isFinite (hx : x.isFinite = true) :
    x.fraction = roundSize x.negative (Int.fract |x.value|) := by
  have hsize : (if x.negative then -x.value else x.value) = |x.value| := by
    cases h : x.negative with
    | false => rw [if_neg (by decide), abs_of_nonneg (value_nonneg h)]
    | true => rw [if_pos rfl, abs_of_nonpos (value_nonpos h)]
  unfold fraction
  rw [if_pos hx]
  dsimp only
  rw [hsize]
  rfl

theorem isFinite_fraction (hx : x.isFinite = true) : x.fraction.isFinite = true := by
  rw [fraction_of_isFinite hx]
  refine isFinite_roundSize (show one.isFinite = true from rfl) ?_
  rw [value_one, abs_one, abs_of_nonneg (Int.fract_nonneg _)]
  exact (Int.fract_lt_one _).le

/-- The remainder of a division by one is exact. -/
theorem value_fraction (hx : x.isFinite = true) :
    x.fraction.value = if x.negative then -Int.fract |x.value| else Int.fract |x.value| := by
  rw [fraction_of_isFinite hx]
  cases x.negative with
  | false =>
      have hnonneg : if false then Int.fract |x.value| ≤ 0 else 0 ≤ Int.fract |x.value| :=
        Int.fract_nonneg _
      rw [value_roundSize hnonneg, rounded_fract_abs]
      rfl
  | true =>
      have hnonpos : if true then -Int.fract |x.value| ≤ 0 else 0 ≤ -Int.fract |x.value| :=
        neg_nonpos.2 (Int.fract_nonneg _)
      rw [← roundSize_neg, value_roundSize hnonpos, rounded_neg, rounded_fract_abs]
      rfl

/-! ## Cycles -/

theorem fraction_lt_zero_iff (hx : x.isFinite = true) :
    x.fraction.lt (zero false) = true ↔ x.fraction.value < 0 := by
  rw [lt_iff_value_lt (isNaN_of_isFinite (isFinite_fraction hx)) rfl, value_zero]

theorem cycle_of_fraction_nonneg (hx : x.isFinite = true) (h : 0 ≤ x.fraction.value) :
    x.cycle = x.fraction :=
  if_neg fun hless => absurd ((fraction_lt_zero_iff hx).1 hless) (not_lt.2 h)

theorem cycle_of_fraction_neg (hx : x.isFinite = true) (h : x.fraction.value < 0) :
    x.cycle = x.fraction + one :=
  if_pos ((fraction_lt_zero_iff hx).2 h)

/-- A number that is not negative keeps its exact fractional part. -/
theorem value_cycle_of_nonneg (hx : x.isFinite = true) (h : 0 ≤ x.value) :
    x.cycle.value = Int.fract x.value := by
  have hvalue : x.fraction.value = Int.fract x.value := by
    rw [value_fraction hx]
    cases hsign : x.negative with
    | false => rw [if_neg (by decide), abs_of_nonneg h]
    | true =>
        have hzero : x.value = 0 := le_antisymm (value_nonpos hsign) h
        rw [hzero, abs_zero, Int.fract_zero, neg_zero, ite_self]
  rw [cycle_of_fraction_nonneg hx (hvalue ▸ Int.fract_nonneg _), hvalue]

/-- The cycle of a number has the rounded value of its exact fractional part. -/
theorem value_cycle (hx : x.isFinite = true) : x.cycle.value = rounded (Int.fract x.value) := by
  rcases le_or_gt 0 x.value with h | h
  · have hexact := rounded_fract_abs x
    rw [abs_of_nonneg h] at hexact
    rw [value_cycle_of_nonneg hx h, hexact]
  · have hvalue : x.fraction.value = -Int.fract (-x.value) := by
      rw [value_fraction hx, negative_of_value_neg h, if_pos rfl, abs_of_neg h]
    by_cases hwhole : Int.fract x.value = 0
    · rw [Int.fract_neg_eq_zero.2 hwhole, neg_zero] at hvalue
      rw [cycle_of_fraction_nonneg hx hvalue.ge, hvalue, hwhole, rounded_zero]
    · -- The remainder is completed to one, which is the only rounding.
      have hpos : 0 < Int.fract x.value := lt_of_le_of_ne (Int.fract_nonneg _) (Ne.symm hwhole)
      rw [Int.fract_neg hwhole] at hvalue
      have hless : x.fraction.value < 0 := by linarith [Int.fract_lt_one x.value]
      rw [cycle_of_fraction_neg hx hless, value_add (isFinite_fraction hx) rfl, hvalue, value_one,
        neg_sub, sub_add_cancel]

end ColorMarkup.Binary32
