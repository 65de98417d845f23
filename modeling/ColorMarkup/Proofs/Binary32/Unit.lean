import ColorMarkup.Proofs.Binary32.Cycle

/-!
# ColorMarkup.Proofs.Binary32.Unit

Arithmetic between zero and one.

1. What is held between zero and one lies there, whatever it was
   (`inUnit_clampUnit`).  A number keeps its value or has that of the end it
   lies beyond (`value_clampUnit`), so the order is kept
   (`value_clampUnit_mono`).
2. Products and differences from one stay there (`InUnit.mul`,
   `InUnit.one_sub`), and so does what whole turns leave (`inUnit_cycle`).
-/

namespace ColorMarkup.Binary32

/-! ## Held numbers -/

/-- A number is held between zero and one, whatever it is. -/
theorem inUnit_clampUnit (x : Binary32) : (clampUnit (zero false) x).InUnit := by
  unfold clampUnit
  split
  · exact .of_value (by simp) (by simp)
  · rename_i hnan
    exact inUnit_clamp (Bool.eq_false_iff.2 hnan)

theorem clampUnit_of_isNaN {x : Binary32} (h : x.isNaN = true) (fallback : Binary32) :
    clampUnit fallback x = fallback :=
  if_pos h

/-- A number is held at its own value, or at the end that it lies beyond. -/
theorem value_clampUnit {x : Binary32} (h : x.isNaN = false) (fallback : Binary32) :
    (clampUnit fallback x).value = min 1 (max 0 x.value) := by
  rw [clampUnit, if_neg (Bool.eq_false_iff.1 h), value_clamp_unit h]

/-- A number between zero and one keeps its value when it is held there. -/
theorem InUnit.value_clampUnit {x : Binary32} (h : x.InUnit) (fallback : Binary32) :
    (clampUnit fallback x).value = x.value := by
  rw [Binary32.value_clampUnit (isNaN_of_isFinite h.isFinite), max_eq_right h.nonneg,
    min_eq_right h.le_one]

/-- What is not a number, or not above zero, is held at zero. -/
theorem value_clampUnit_of_le_zero {x : Binary32} (h : x.isNaN = true ∨ x ≤ zero false) :
    (clampUnit (zero false) x).value = 0 := by
  cases h with
  | inl hnan => rw [clampUnit_of_isNaN hnan, value_zero]
  | inr hle =>
      obtain ⟨hnan, -, hvalue⟩ := le_iff_value_le.1 hle
      rw [value_zero] at hvalue
      rw [value_clampUnit hnan, max_eq_left hvalue, min_eq_right zero_le_one]

/-- What is not below one is held at one. -/
theorem value_clampUnit_of_one_le {x : Binary32} (h : one ≤ x) (fallback : Binary32) :
    (clampUnit fallback x).value = 1 := by
  obtain ⟨-, hnan, hvalue⟩ := le_iff_value_le.1 h
  rw [value_one] at hvalue
  rw [value_clampUnit hnan, max_eq_right (zero_le_one.trans hvalue), min_eq_left hvalue]

/-- Holding numbers keeps their order. -/
theorem value_clampUnit_mono {x y : Binary32} (h : x ≤ y) (fallback : Binary32) :
    (clampUnit fallback x).value ≤ (clampUnit fallback y).value := by
  obtain ⟨hx, hy, hvalue⟩ := le_iff_value_le.1 h
  rw [value_clampUnit hx, value_clampUnit hy]
  exact min_le_min le_rfl (max_le_max le_rfl hvalue)

/-! ## Products and complements -/

/-- Rounding does not leave the range from zero to one. -/
theorem rounded_mem_unit {exact : Rat} (hnonneg : 0 ≤ exact) (hone : exact ≤ 1) :
    0 ≤ rounded exact ∧ rounded exact ≤ 1 :=
  ⟨rounded_nonneg hnonneg, (rounded_mono hone).trans_eq rounded_one⟩

/-- What is rounded from the range between zero and one lies there. -/
theorem InUnit.of_value_eq_rounded {x : Binary32} {exact : Rat} (h : x.value = rounded exact)
    (hnonneg : 0 ≤ exact) (hone : exact ≤ 1) : x.InUnit := by
  obtain ⟨hlow, hhigh⟩ := rounded_mem_unit hnonneg hone
  exact .of_value (h ▸ hlow) (h ▸ hhigh)

section

variable {x y : Binary32} (hx : x.InUnit) (hy : y.InUnit)
include hx

theorem InUnit.rounded_value : rounded x.value = x.value :=
  Binary32.rounded_value (of_decide_eq_true hx.isFinite).le

theorem InUnit.value_one_sub : (one - x).value = rounded (1 - x.value) := by
  rw [value_sub rfl hx.isFinite, value_one]

/-- What is missing to one lies between zero and one again. -/
theorem InUnit.one_sub : (one - x).InUnit :=
  .of_value_eq_rounded hx.value_one_sub (sub_nonneg.2 hx.le_one) (sub_le_self 1 hx.nonneg)

include hy

theorem InUnit.value_mul : (x * y).value = rounded (x.value * y.value) :=
  Binary32.value_mul hx.isFinite hy.isFinite

/-- A part of a part lies between zero and one again. -/
theorem InUnit.mul : (x * y).InUnit :=
  .of_value_eq_rounded (hx.value_mul hy) (mul_nonneg hx.nonneg hy.nonneg)
    (mul_le_one₀ hx.le_one hy.nonneg hy.le_one)

end

/-! ## Cycles -/

/-- What whole turns leave of a number lies between zero and one. -/
theorem inUnit_cycle {x : Binary32} (hx : x.isFinite = true) : x.cycle.InUnit :=
  .of_value_eq_rounded (value_cycle hx) (Int.fract_nonneg x.value) (Int.fract_lt_one x.value).le

end ColorMarkup.Binary32
