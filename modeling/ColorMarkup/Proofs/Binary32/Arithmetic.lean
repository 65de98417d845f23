import ColorMarkup.Binary32.Arithmetic
import ColorMarkup.Proofs.Binary32.Rounded
import Mathlib.Data.Rat.Floor

/-!
# ColorMarkup.Proofs.Binary32.Arithmetic

The operations in terms of exact values.

1. Numbers are ordered as their values are, infinities included
   (`lt_iff_value_lt`, `le_iff_value_le`).
2. A sum, a difference, a product or a quotient of finite numbers has the
   rounded value of the exact result (`value_add`, `value_sub`, `value_mul`,
   `value_div`).  Signs of zeros do not show in values.
3. The same holds of the operations that give whole numbers (`value_floor`,
   `value_round`, `saturate_eq`).
4. A number that is held between zero and one has a value there
   (`value_clamp_unit`).
-/

namespace ColorMarkup.Binary32

/-! ## Kinds of numbers -/

theorem isNaN_of_isFinite {x : Binary32} (h : x.isFinite = true) : x.isNaN = false := by
  simp only [isFinite, isNaN, decide_eq_true_eq, decide_eq_false_iff_not] at h ⊢
  omega

theorem isInfinite_of_isFinite {x : Binary32} (h : x.isFinite = true) : x.isInfinite = false := by
  simp only [isFinite, isInfinite, decide_eq_true_eq, decide_eq_false_iff_not] at h ⊢
  omega

@[simp] theorem value_zero (negative : Bool) : (zero negative).value = 0 := by
  cases negative <;> simp [value, zero, units]

@[simp] theorem value_one : one.value = 1 := by
  rw [value_of_not_negative rfl, units_magnitude_one, div_self unitsPerOne_pos.ne']

theorem value_neg (x : Binary32) : (-x).value = -x.value := by
  cases h : x.negative with
  | false =>
      have hflip : (-x).negative = true := by
        change (!x.negative) = true
        rw [h]
        rfl
      rw [value_of_negative hflip, value_of_not_negative h]
      rfl
  | true =>
      have hflip : (-x).negative = false := by
        change (!x.negative) = false
        rw [h]
        rfl
      rw [value_of_not_negative hflip, value_of_negative h, neg_neg]
      rfl

theorem isFinite_neg (x : Binary32) : (-x).isFinite = x.isFinite := rfl

theorem value_nonneg {x : Binary32} (h : x.negative = false) : 0 ≤ x.value := by
  rw [value_of_not_negative h]
  exact units_div_nonneg _

theorem value_nonpos {x : Binary32} (h : x.negative = true) : x.value ≤ 0 := by
  rw [value_of_negative h]
  exact neg_nonpos.2 (units_div_nonneg _)

/-- Only negative numbers have values below zero. -/
theorem negative_of_value_neg {x : Binary32} (h : x.value < 0) : x.negative = true := by
  by_contra hsign
  exact absurd (value_nonneg (Bool.eq_false_iff.2 hsign)) (not_le.2 h)

/-- The sign of a number is a sign of its value. -/
theorem sign_value (x : Binary32) : if x.negative then x.value ≤ 0 else 0 ≤ x.value := by
  cases h : x.negative with
  | false => exact value_nonneg h
  | true => exact value_nonpos h

theorem isZero_iff {x : Binary32} : x.isZero = true ↔ x.value = 0 := by
  rw [← abs_eq_zero, abs_value, div_eq_zero_iff]
  simp only [isZero, decide_eq_true_eq, unitsPerOne_pos.ne', or_false, Nat.cast_eq_zero]
  rw [← units_strictMono.injective.eq_iff, show units 0 = 0 from rfl]

/-- Rounding never gives what is not a number. -/
theorem isNaN_roundSize (negative : Bool) (exact : Rat) :
    (roundSize negative exact).isNaN = false :=
  decide_eq_false (not_lt.2 (Nat.min_le_right _ _))

/-- What is rounded up to a power of two that is finite is finite. -/
theorem isFinite_ofRat {exact : Rat} (h : |exact| ≤ 2 ^ 127) : (ofRat exact).isFinite = true := by
  have hle : (ofRat exact).magnitude ≤ (ofRat (2 ^ 127)).magnitude :=
    magnitude_ofRat_mono (h.trans (le_abs_self _))
  have hlt : (ofRat (2 ^ 127)).magnitude < infinityMagnitude := by decide
  exact decide_eq_true (hle.trans_lt hlt)

/-- What is no larger than such a power of two is finite. -/
theorem isFinite_of_abs_value_le_two_pow {x : Binary32} (h : |x.value| ≤ 2 ^ 127) :
    x.isFinite = true := by
  have hpower : (ofRat (2 ^ 127)).value = 2 ^ 127 := rounded_two_pow (Nat.le_refl 127)
  refine isFinite_of_abs_value_le (isFinite_ofRat (abs_of_pos (by positivity)).le) ?_
  rw [hpower]
  exact h.trans (le_abs_self _)

/-! ## Order -/

theorem units_div_lt_iff {a b : Nat} :
    (units a : Rat) / unitsPerOne < (units b : Rat) / unitsPerOne ↔ a < b :=
  lt_iff_lt_of_le_iff_le units_div_le_iff

theorem units_div_zero : (units 0 : Rat) / unitsPerOne = 0 := by
  simp [units]

theorem units_div_pos_iff {magnitude : Nat} :
    (0 : Rat) < units magnitude / unitsPerOne ↔ 0 < magnitude := by
  rw [← units_div_zero, units_div_lt_iff]

/-- Two sizes have a sum above zero unless both are zero. -/
theorem units_div_add_pos_iff {a b : Nat} :
    (0 : Rat) < units a / unitsPerOne + units b / unitsPerOne ↔ 0 < a + b := by
  rcases Nat.eq_zero_or_pos a with rfl | ha
  · rw [units_div_zero, zero_add, Nat.zero_add, units_div_pos_iff]
  · have hsum := add_pos_of_pos_of_nonneg (units_div_pos_iff.2 ha) (units_div_nonneg b)
    exact iff_of_true hsum (by omega)

/-- Numbers are in the order of their values. -/
theorem value_lt_value_iff {x y : Binary32} : x.value < y.value ↔ x.rank < y.rank := by
  cases hx : x.negative with
  | false =>
      cases hy : y.negative with
      | false =>
          rw [value_of_not_negative hx, value_of_not_negative hy, units_div_lt_iff]
          simp [rank, hx, hy]
      | true =>
          have hrank : ¬ x.rank < y.rank := by
            simp only [rank, hx, hy, Bool.false_eq_true, if_false, if_true]
            omega
          exact iff_of_false (not_lt.2 ((value_nonpos hy).trans (value_nonneg hx))) hrank
  | true =>
      cases hy : y.negative with
      | false =>
          rw [value_of_negative hx, value_of_not_negative hy, neg_lt_iff_pos_add, add_comm,
            units_div_add_pos_iff]
          simp only [rank, hx, hy, Bool.false_eq_true, if_false, if_true]
          omega
      | true =>
          rw [value_of_negative hx, value_of_negative hy, neg_lt_neg_iff, units_div_lt_iff]
          simp [rank, hx, hy]

theorem lt_iff_value_lt {x y : Binary32} (hx : x.isNaN = false) (hy : y.isNaN = false) :
    x.lt y = true ↔ x.value < y.value := by
  rw [value_lt_value_iff, lt, hx, hy]
  simp

/-- One number is at most another: both are numbers, and the other is not less. -/
instance : LE Binary32 :=
  ⟨fun x y => x.isNaN = false ∧ y.isNaN = false ∧ y.lt x = false⟩

instance (x y : Binary32) : Decidable (x ≤ y) :=
  inferInstanceAs (Decidable (x.isNaN = false ∧ y.isNaN = false ∧ y.lt x = false))

theorem le_iff_value_le {x y : Binary32} :
    x ≤ y ↔ x.isNaN = false ∧ y.isNaN = false ∧ x.value ≤ y.value := by
  refine and_congr_right fun hx => and_congr_right fun hy => ?_
  rw [Bool.eq_false_iff, ne_eq, lt_iff_value_lt hy hx, not_lt]

/-! ## Sums, products, quotients -/

theorem add_of_isFinite {x y : Binary32} (hx : x.isFinite = true) (hy : y.isFinite = true) :
    x + y = if x.value + y.value = 0 then zero (x.negative && y.negative)
      else ofRat (x.value + y.value) := by
  change add x y = _
  unfold add
  simp only [isNaN_of_isFinite hx, isNaN_of_isFinite hy, isInfinite_of_isFinite hx,
    isInfinite_of_isFinite hy, Bool.or_self, Bool.false_eq_true, if_false]

/-- The sum of finite numbers has the rounded value of the exact sum. -/
theorem value_add {x y : Binary32} (hx : x.isFinite = true) (hy : y.isFinite = true) :
    (x + y).value = rounded (x.value + y.value) := by
  rw [add_of_isFinite hx hy]
  split
  · rename_i hzero
    rw [hzero, value_zero, rounded_zero]
  · rfl

/-- The difference of finite numbers has the rounded value of the exact one. -/
theorem value_sub {x y : Binary32} (hx : x.isFinite = true) (hy : y.isFinite = true) :
    (x - y).value = rounded (x.value - y.value) := by
  have hadd := value_add hx ((isFinite_neg y).trans hy)
  rw [value_neg, ← sub_eq_add_neg] at hadd
  exact hadd

theorem isNaN_add {x y : Binary32} (hx : x.isFinite = true) (hy : y.isFinite = true) :
    (x + y).isNaN = false := by
  rw [add_of_isFinite hx hy]
  split
  · rfl
  · exact isNaN_roundSize _ _

theorem isNaN_sub {x y : Binary32} (hx : x.isFinite = true) (hy : y.isFinite = true) :
    (x - y).isNaN = false :=
  isNaN_add hx ((isFinite_neg y).trans hy)

/-- Signs multiply like the values that have them. -/
theorem sign_mul {negative negative' : Bool} {a b : Rat}
    (ha : if negative then a ≤ 0 else 0 ≤ a) (hb : if negative' then b ≤ 0 else 0 ≤ b) :
    if negative != negative' then a * b ≤ 0 else 0 ≤ a * b := by
  cases negative <;> cases negative'
  · exact mul_nonneg ha hb
  · exact mul_nonpos_of_nonneg_of_nonpos ha hb
  · exact mul_nonpos_of_nonpos_of_nonneg ha hb
  · exact mul_nonneg_of_nonpos_of_nonpos ha hb

/-- The product of finite numbers has the rounded value of the exact product. -/
theorem value_mul {x y : Binary32} (hx : x.isFinite = true) (hy : y.isFinite = true) :
    (x * y).value = rounded (x.value * y.value) := by
  change (mul x y).value = _
  unfold mul
  simp only [isNaN_of_isFinite hx, isNaN_of_isFinite hy, isInfinite_of_isFinite hx,
    isInfinite_of_isFinite hy, Bool.or_self, Bool.false_eq_true, if_false]
  exact value_roundSize (sign_mul x.sign_value y.sign_value)

/-- The quotient of finite numbers has the rounded value of the exact one. -/
theorem value_div {x y : Binary32} (hx : x.isFinite = true) (hy : y.isFinite = true)
    (hzero : y.value ≠ 0) : (x / y).value = rounded (x.value / y.value) := by
  have hdivisor : y.isZero = false := by
    rwa [Bool.eq_false_iff, ne_eq, isZero_iff]
  have hinverse : if y.negative then y.value⁻¹ ≤ 0 else 0 ≤ y.value⁻¹ := by
    simpa only [inv_nonpos, inv_nonneg] using y.sign_value
  change (div x y).value = _
  unfold div
  simp only [isNaN_of_isFinite hx, isNaN_of_isFinite hy, isInfinite_of_isFinite hx,
    isInfinite_of_isFinite hy, hdivisor, Bool.or_self, Bool.false_eq_true, if_false]
  rw [div_eq_mul_inv]
  exact value_roundSize (sign_mul x.sign_value hinverse)

/-! ## Whole numbers -/

theorem value_ofNat (n : Nat) : (ofNat n).value = rounded n := rfl

/-- Counts of at most 24 binary digits are numbers of the format. -/
theorem value_ofNat_of_le {n : Nat} (h : n ≤ 2 ^ 24) : (ofNat n).value = n :=
  rounded_natCast h

/-- A finite number has the rounded value of its floor. -/
theorem value_floor {x : Binary32} (hx : x.isFinite = true) :
    x.floor.value = rounded (⌊x.value⌋ : Int) := by
  unfold floor
  rw [if_pos hx]
  apply value_roundSize
  cases h : x.negative with
  | false => exact Int.cast_nonneg (Int.floor_nonneg.2 (value_nonneg h))
  | true => exact Int.cast_nonpos.2 (Int.floor_nonpos (value_nonpos h))

/-- The floor of a finite number that is not below zero is finite. -/
theorem isFinite_floor {x : Binary32} (hx : x.isFinite = true) (hnonneg : 0 ≤ x.value) :
    x.floor.isFinite = true := by
  have hfloor : (0 : Rat) ≤ (⌊x.value⌋ : Int) := Int.cast_nonneg (Int.floor_nonneg.2 hnonneg)
  unfold floor
  rw [if_pos hx]
  refine isFinite_roundSize hx ?_
  rw [abs_of_nonneg hnonneg]
  change |((⌊x.value⌋ : Int) : Rat)| ≤ x.value
  rw [abs_of_nonneg hfloor]
  exact Int.floor_le x.value

/-- A number that is not below zero is rounded by the floor of half more. -/
theorem value_round {x : Binary32} (hx : x.isFinite = true) (hnonneg : 0 ≤ x.value) :
    x.round.value = rounded (⌊x.value + 1 / 2⌋ : Int) := by
  unfold round
  rw [if_pos hx]
  cases h : x.negative with
  | false =>
      have hfloor : (0 : Rat) ≤ (⌊x.value + 1 / 2⌋ : Int) :=
        Int.cast_nonneg (Int.floor_nonneg.2 (by linarith))
      exact value_roundSize hfloor
  | true =>
      -- The number is a zero, so its size has no sign.
      have hzero : x.value = 0 := le_antisymm (value_nonpos h) hnonneg
      have hsize : -x.value = x.value := by rw [hzero, neg_zero]
      have hfloor : ((⌊x.value + 1 / 2⌋ : Int) : Rat) ≤ 0 := by
        rw [hzero]
        norm_num
      rw [if_pos rfl, hsize]
      exact value_roundSize hfloor

/-- Of a finite number the whole number below it is held. -/
theorem saturate_eq {x : Binary32} (hx : x.isFinite = true) (limit : Nat) :
    x.saturate limit = min ⌊x.value⌋.toNat limit := by
  unfold saturate
  rw [isNaN_of_isFinite hx, isInfinite_of_isFinite hx, Bool.false_or]
  cases h : x.negative with
  | false => rfl
  | true =>
      have hfloor : ⌊x.value⌋.toNat = 0 :=
        Int.toNat_of_nonpos (Int.floor_nonpos (value_nonpos h))
      rw [if_pos rfl, hfloor, Nat.zero_min]

theorem saturate_le (limit : Nat) (x : Binary32) : x.saturate limit ≤ limit := by
  unfold saturate
  split
  · exact Nat.zero_le limit
  · split
    · exact Nat.le_refl limit
    · exact Nat.min_le_right _ _

/-! ## Bounds -/

/-- A number whose value lies between zero and one. -/
theorem InUnit.of_value {x : Binary32} (hnonneg : 0 ≤ x.value) (hone : x.value ≤ 1) : x.InUnit where
  isFinite := by
    refine isFinite_of_abs_value_le (y := one) rfl ?_
    rwa [value_one, abs_one, abs_of_nonneg hnonneg]
  nonneg := hnonneg
  le_one := hone

/-- A number that is held between zero and one has its own value or one of
these. -/
theorem value_clamp_unit {x : Binary32} (h : x.isNaN = false) :
    (clamp (zero false) one x).value = min 1 (max 0 x.value) := by
  have hraised : (if x.lt (zero false) then zero false else x).isNaN = false ∧
      (if x.lt (zero false) then zero false else x).value = max 0 x.value := by
    have hlt := lt_iff_value_lt h (show (zero false).isNaN = false from rfl)
    rw [value_zero] at hlt
    split
    · rename_i hlow
      exact ⟨rfl, by rw [value_zero, max_eq_left (hlt.1 hlow).le]⟩
    · rename_i hlow
      exact ⟨h, by rw [max_eq_right (not_lt.1 fun hneg => hlow (hlt.2 hneg))]⟩
  unfold clamp
  generalize (if x.lt (zero false) then zero false else x) = raised at hraised
  have hlt := lt_iff_value_lt (show one.isNaN = false from rfl) hraised.1
  rw [value_one, hraised.2] at hlt
  dsimp only
  split
  · rename_i hhigh
    rw [value_one, min_eq_left (hlt.1 hhigh).le]
  · rename_i hhigh
    rw [hraised.2, min_eq_right (not_lt.1 fun hone => hhigh (hlt.2 hone))]

theorem inUnit_clamp {x : Binary32} (h : x.isNaN = false) : (clamp (zero false) one x).InUnit := by
  have hvalue := value_clamp_unit h
  apply InUnit.of_value
  · rw [hvalue]
    exact le_min zero_le_one (le_max_left 0 x.value)
  · rw [hvalue]
    exact min_le_left 1 (max 0 x.value)

end ColorMarkup.Binary32
