import ColorMarkup.Proofs.Binary32.Arithmetic

/-!
# ColorMarkup.Proofs.Effect.Share

The share that some units have of all steps of an effect, as a quotient of two
counts.  Both counts and the quotient are rounded (`shareValue`), and all three
roundings keep the order.  Counts and shares of spans are finite, and a count
of steps that divides is never zero.
-/

namespace ColorMarkup

open Binary32

/-! ## Counts -/

theorem isFinite_ofNat_of_lt {n : Nat} (h : n < 2 ^ 64) : (ofNat n).isFinite = true := by
  refine isFinite_ofRat ?_
  have hsize : (n : Rat) ≤ 2 ^ 64 := by exact_mod_cast h.le
  rw [Nat.abs_cast]
  exact hsize.trans (by norm_num)

theorem one_le_rounded_natCast {n : Nat} (h : 0 < n) : 1 ≤ rounded n := by
  have hone : (1 : Rat) ≤ n := by exact_mod_cast h
  exact rounded_one.symm.trans_le (rounded_mono hone)

theorem rounded_natCast_le_two_pow {n exponent : Nat} (h : n ≤ 2 ^ exponent)
    (hexponent : exponent ≤ 127) : rounded n ≤ 2 ^ exponent := by
  have hle : (n : Rat) ≤ 2 ^ exponent := by exact_mod_cast h
  exact (rounded_mono hle).trans_eq (rounded_two_pow hexponent)

/-- A count that is not zero does not become zero. -/
theorem isZero_ofNat {n : Nat} (h : 0 < n) : (ofNat n).isZero = false := by
  have hone := one_le_rounded_natCast h
  rw [← value_ofNat] at hone
  rw [Bool.eq_false_iff, ne_eq, isZero_iff]
  linarith

/-! ## Shares -/

/-- The share that some steps of the way have, each count and the quotient
rounded. -/
def shareValue (index steps : Nat) : Rat :=
  rounded (rounded index / rounded steps)

theorem shareValue_nonneg (index steps : Nat) : 0 ≤ shareValue index steps :=
  rounded_nonneg
    (div_nonneg (rounded_nonneg (Nat.cast_nonneg _)) (rounded_nonneg (Nat.cast_nonneg _)))

theorem shareValue_mono {index index' : Nat} (h : index ≤ index') (steps : Nat) :
    shareValue index steps ≤ shareValue index' steps := by
  have hindex : rounded index ≤ rounded index' := rounded_mono (Nat.cast_le.2 h)
  exact rounded_mono (div_le_div_of_nonneg_right hindex (rounded_nonneg (Nat.cast_nonneg steps)))

theorem shareValue_le_one {index steps : Nat} (h : index ≤ steps) : shareValue index steps ≤ 1 := by
  have hindex : rounded index ≤ rounded steps := rounded_mono (Nat.cast_le.2 h)
  have hquotient := div_le_one_of_le₀ hindex (rounded_nonneg (Nat.cast_nonneg steps))
  exact (rounded_mono hquotient).trans_eq rounded_one

theorem shareValue_zero (steps : Nat) : shareValue 0 steps = 0 := by
  rw [shareValue, Nat.cast_zero, rounded_zero, zero_div, rounded_zero]

theorem shareValue_self {steps : Nat} (h : 0 < steps) : shareValue steps steps = 1 := by
  have hone := one_le_rounded_natCast h
  rw [shareValue, div_self (by linarith), rounded_one]

/-- A share has no more digits before the point than the count. -/
theorem shareValue_le_two_pow {index steps exponent : Nat} (hpos : 0 < steps)
    (hindex : index ≤ 2 ^ exponent) (hexponent : exponent ≤ 127) :
    shareValue index steps ≤ 2 ^ exponent := by
  have hsize := rounded_natCast_le_two_pow hindex hexponent
  have hquotient := div_le_self (rounded_nonneg (Nat.cast_nonneg index))
    (one_le_rounded_natCast hpos)
  exact (rounded_mono (hquotient.trans hsize)).trans_eq (rounded_two_pow hexponent)

/-- A quotient of two counts has the value of the share. -/
theorem value_share {index steps : Nat} (hindex : index < 2 ^ 64) (hpos : 0 < steps)
    (hsteps : steps < 2 ^ 64) : (ofNat index / ofNat steps).value = shareValue index steps := by
  have hdivisor : (ofNat steps).value ≠ 0 := by
    have hone := one_le_rounded_natCast hpos
    rw [value_ofNat]
    linarith
  rw [value_div (isFinite_ofNat_of_lt hindex) (isFinite_ofNat_of_lt hsteps) hdivisor]
  rfl

theorem isFinite_share {index steps : Nat} (hindex : index < 2 ^ 64) (hpos : 0 < steps)
    (hsteps : steps < 2 ^ 64) : (ofNat index / ofNat steps).isFinite = true := by
  have hsize := shareValue_le_two_pow hpos hindex.le (by omega)
  apply isFinite_of_abs_value_le_two_pow
  rw [value_share hindex hpos hsteps, abs_of_nonneg (shareValue_nonneg _ _)]
  exact hsize.trans (by norm_num)

end ColorMarkup
