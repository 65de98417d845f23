import ColorMarkup.Binary32.Basic
import Mathlib.Algebra.Order.Field.Rat
import Mathlib.Order.Monotone.Basic
import Mathlib.Tactic.Linarith
import Mathlib.Tactic.Positivity

/-!
# ColorMarkup.Proofs.Binary32.Order

The order of the numbers of the format.

1. A greater magnitude stands for more units (`units_strictMono`), also where
   the exponent changes from one magnitude to the next.
2. From `0x1000000` on, the units of a magnitude are a multiple of the spacing
   there (`two_pow_dvd_units`).
3. Hence a number whose magnitude is at most that of one lies between zero and
   one (`InUnit.of_magnitude_le`).
-/

namespace ColorMarkup.Binary32

/-! ## Units -/

theorem units_of_lt {magnitude : Nat} (h : magnitude < 0x1000000) : units magnitude = magnitude :=
  if_pos h

theorem units_of_le {magnitude : Nat} (h : 0x1000000 ≤ magnitude) :
    units magnitude =
      (0x800000 + magnitude % 0x800000) * 2 ^ (magnitude / 0x800000 - 1) := by
  rw [units, if_neg (by omega), Nat.shiftLeft_eq]

/-- The next magnitude stands for more. -/
theorem units_lt_units_succ (magnitude : Nat) : units magnitude < units (magnitude + 1) := by
  by_cases hsmall : magnitude + 1 < 0x1000000
  · rw [units_of_lt hsmall, units_of_lt (by omega)]
    omega
  · by_cases hfirst : magnitude + 1 = 0x1000000
    · rw [units_of_lt (by omega), hfirst, units_of_le (by omega)]
      omega
    · rw [units_of_le (by omega : 0x1000000 ≤ magnitude), units_of_le (by omega)]
      by_cases hcarry : magnitude % 0x800000 + 1 = 0x800000
      · -- The fraction starts again, with the next exponent.
        have hmod : (magnitude + 1) % 0x800000 = 0 := by omega
        have hexponent : (magnitude + 1) / 0x800000 - 1 = magnitude / 0x800000 - 1 + 1 := by omega
        have hpos : 0 < 2 ^ (magnitude / 0x800000 - 1) := by positivity
        rw [hmod, hexponent, Nat.pow_succ]
        have hfraction : magnitude % 0x800000 = 0x7FFFFF := by omega
        rw [hfraction]
        omega
      · have hmod : (magnitude + 1) % 0x800000 = magnitude % 0x800000 + 1 := by omega
        have hexponent : (magnitude + 1) / 0x800000 = magnitude / 0x800000 := by omega
        rw [hmod, hexponent]
        exact Nat.mul_lt_mul_of_pos_right (by omega) (by positivity)

/-- Greater magnitudes stand for more. -/
theorem units_strictMono : StrictMono units :=
  strictMono_nat_of_lt_succ units_lt_units_succ

/-- Beyond a power of two the units are a multiple of the spacing there. -/
theorem two_pow_dvd_units {magnitude shift : Nat} (hshift : 1 ≤ shift)
    (h : 2 ^ (23 + shift) ≤ units magnitude) : 2 ^ shift ∣ units magnitude := by
  have hpow : 2 ^ 24 ≤ 2 ^ (23 + shift) := Nat.pow_le_pow_right (by omega) (by omega)
  have hlarge : 0x1000000 ≤ magnitude := by
    by_contra hsmall
    rw [units_of_lt (by omega)] at h
    omega
  rw [units_of_le hlarge] at h ⊢
  have hexponent : shift ≤ magnitude / 0x800000 - 1 := by
    by_contra hless
    have hle : 2 ^ (magnitude / 0x800000 - 1 + 1) ≤ 2 ^ shift :=
      Nat.pow_le_pow_right (by omega) (by omega)
    rw [Nat.pow_succ] at hle
    rw [Nat.pow_add] at h
    have hfraction : magnitude % 0x800000 < 0x800000 := Nat.mod_lt _ (by omega)
    have hlt : (0x800000 + magnitude % 0x800000) * 2 ^ (magnitude / 0x800000 - 1) <
        0x1000000 * 2 ^ (magnitude / 0x800000 - 1) :=
      Nat.mul_lt_mul_of_pos_right (by omega) (by positivity)
    omega
  exact Nat.dvd_mul_left_of_dvd (Nat.pow_dvd_pow 2 hexponent) _

/-! ## Values -/

theorem unitsPerOne_pos : (0 : Rat) < unitsPerOne := by
  have hpos : 0 < unitsPerOne := by decide
  exact_mod_cast hpos

theorem value_of_not_negative {x : Binary32} (h : x.negative = false) :
    x.value = (units x.magnitude : Rat) / (unitsPerOne : Rat) := by
  rw [value, h]
  rfl

theorem units_magnitude_one : units one.magnitude = unitsPerOne := by decide

/-- A number between zero and one. -/
structure InUnit (x : Binary32) : Prop where
  isFinite : x.isFinite = true
  nonneg : 0 ≤ x.value
  le_one : x.value ≤ 1

/-- A positive number is at most one if its magnitude is. -/
theorem InUnit.of_magnitude_le {x : Binary32} (hsign : x.negative = false)
    (h : x.magnitude ≤ one.magnitude) : x.InUnit := by
  have hpos := unitsPerOne_pos
  refine ⟨?_, ?_, ?_⟩
  · have hlt : one.magnitude < infinityMagnitude := by decide
    simp only [Binary32.isFinite, decide_eq_true_eq]
    omega
  · rw [value_of_not_negative hsign]
    exact div_nonneg (Nat.cast_nonneg _) hpos.le
  · rw [value_of_not_negative hsign, div_le_one hpos, ← units_magnitude_one]
    exact Nat.cast_le.2 (units_strictMono.monotone h)

end ColorMarkup.Binary32
