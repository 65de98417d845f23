import ColorMarkup.Binary32.Rounding
import ColorMarkup.Proofs.Binary32.Order
import Mathlib.Algebra.Order.Field.Basic
import Mathlib.Data.Rat.Cast.Order

/-!
# ColorMarkup.Proofs.Binary32.Rounding

Rounding gives the nearest number of the format.

1. `roundHalfEven` is the nearest whole number, and the even one of two that
   are as near (`gap_roundHalfEven_le`, `roundHalfEven_even`).
2. `nearestMagnitude` is the nearest magnitude, as if there were no greatest
   one, with the same rule for a tie (`gap_nearestMagnitude_le`,
   `nearestMagnitude_even`): the numbers beyond a power of two are a multiple
   of the spacing there, and the others are farther than that power.
3. Hence `ofRat` is `IsRounding` of its exact value, and nothing else is
   (`isRounding_iff`).
-/

namespace ColorMarkup.Binary32

/-! ## Distances -/

/-- How far a whole number is from a quotient, in parts of the divisor. -/
def gap (num den value : Nat) : Nat :=
  (((value * den : Nat) : Int) - num).natAbs

/-- A whole number is as far from a quotient in steps as the steps count. -/
theorem gap_mul (num den step value : Nat) :
    gap num (den * step) value = gap num den (value * step) := by
  rw [gap, gap, Nat.mul_assoc, Nat.mul_comm step den]

/-! ## Whole numbers -/

/-- The three cases of rounding a quotient. -/
theorem roundHalfEven_cases (num den : Nat) :
    (2 * (num % den) < den ∧ roundHalfEven num den = num / den) ∨
    (den < 2 * (num % den) ∧ roundHalfEven num den = num / den + 1) ∨
    (2 * (num % den) = den ∧ roundHalfEven num den = num / den + num / den % 2) := by
  unfold roundHalfEven
  dsimp only
  by_cases hless : 2 * (num % den) < den
  · exact .inl ⟨hless, if_pos hless⟩
  · by_cases hmore : den < 2 * (num % den)
    · exact .inr (.inl ⟨hmore, by rw [if_neg hless, if_pos hmore]⟩)
    · exact .inr (.inr ⟨by omega, by rw [if_neg hless, if_neg hmore]⟩)

/-- A whole number is at most the floor of a quotient, or above it. -/
theorem mul_le_or_le_mul (num den value : Nat) :
    value * den ≤ num / den * den ∨ num / den * den + den ≤ value * den := by
  by_cases h : value ≤ num / den
  · exact .inl (Nat.mul_le_mul_right den h)
  · have hmul := Nat.mul_le_mul_right den (by omega : num / den + 1 ≤ value)
    rw [Nat.succ_mul] at hmul
    exact .inr hmul

/-- The rounded quotient is nearest. -/
theorem gap_roundHalfEven_le (num : Nat) {den : Nat} (hden : 0 < den) (value : Nat) :
    gap num den (roundHalfEven num den) ≤ gap num den value := by
  have hdivision : num / den * den + num % den = num := Nat.div_add_mod' num den
  have hexcess : num % den < den := Nat.mod_lt num hden
  have hvalue := mul_le_or_le_mul num den value
  unfold gap
  rcases roundHalfEven_cases num den with ⟨hcase, hround⟩ | ⟨hcase, hround⟩ | ⟨hcase, hround⟩
  · rw [hround]
    omega
  · rw [hround, Nat.succ_mul]
    omega
  · rcases Nat.mod_two_eq_zero_or_one (num / den) with hparity | hparity
    · rw [hround, hparity, Nat.add_zero]
      omega
    · rw [hround, hparity, Nat.succ_mul]
      omega

/-- If another whole number is as near, the rounded quotient is even. -/
theorem roundHalfEven_even {num den value : Nat} (hden : 0 < den)
    (hne : value ≠ roundHalfEven num den)
    (h : gap num den value = gap num den (roundHalfEven num den)) :
    roundHalfEven num den % 2 = 0 := by
  have hdivision : num / den * den + num % den = num := Nat.div_add_mod' num den
  have hexcess : num % den < den := Nat.mod_lt num hden
  rcases roundHalfEven_cases num den with ⟨hcase, hround⟩ | ⟨hcase, hround⟩ | ⟨hcase, hround⟩
  · -- No other whole number is as near as the floor.
    rw [hround] at h hne
    have hother : value * den + den ≤ num / den * den ∨ num / den * den + den ≤ value * den := by
      rcases Nat.lt_or_gt_of_ne hne with hlt | hgt
      · have hmul := Nat.mul_le_mul_right den (by omega : value + 1 ≤ num / den)
        rw [Nat.succ_mul] at hmul
        exact .inl hmul
      · have hmul := Nat.mul_le_mul_right den (by omega : num / den + 1 ≤ value)
        rw [Nat.succ_mul] at hmul
        exact .inr hmul
    unfold gap at h
    omega
  · -- No other whole number is as near as the one above the floor.
    rw [hround] at h hne
    have hother : value * den ≤ num / den * den ∨ num / den * den + 2 * den ≤ value * den := by
      rcases Nat.lt_or_gt_of_ne hne with hlt | hgt
      · exact .inl (Nat.mul_le_mul_right den (by omega : value ≤ num / den))
      · have hmul := Nat.mul_le_mul_right den (by omega : num / den + 2 ≤ value)
        rw [Nat.add_mul] at hmul
        exact .inr hmul
    unfold gap at h
    rw [Nat.succ_mul] at h
    omega
  · omega

/-! ## Magnitudes -/

/-- The two cases of rounding to a magnitude: its units are a rounded quotient,
counted in steps of a power of two. -/
theorem nearestMagnitude_cases (num : Nat) {den : Nat} (hden : 0 < den) :
    (nearestMagnitude num den = roundHalfEven num den ∧
      units (nearestMagnitude num den) = roundHalfEven num den) ∨
    ∃ shift, 1 ≤ shift ∧ 2 ^ (23 + shift) * den ≤ num ∧
      nearestMagnitude num den = shift * 0x800000 + roundHalfEven num (den * 2 ^ shift) ∧
      units (nearestMagnitude num den) = roundHalfEven num (den * 2 ^ shift) * 2 ^ shift := by
  by_cases hsmall : num / den < 0x1000000
  · have hmagnitude : nearestMagnitude num den = roundHalfEven num den := if_pos hsmall
    refine .inl ⟨hmagnitude, ?_⟩
    rw [hmagnitude]
    have hle : roundHalfEven num den ≤ num / den + 1 := by
      rcases roundHalfEven_cases num den with ⟨-, h⟩ | ⟨-, h⟩ | ⟨-, h⟩ <;> omega
    by_cases hlast : roundHalfEven num den < 0x1000000
    · exact units_of_lt hlast
    · have heq : roundHalfEven num den = 0x1000000 := by omega
      rw [heq]
      decide
  · -- The floor of the quotient has more than 24 binary digits.
    have hne : num / den ≠ 0 := by omega
    have hlow : 2 ^ (num / den).log2 ≤ num / den := Nat.log2_self_le hne
    have hhigh : num / den < 2 ^ ((num / den).log2 + 1) := Nat.lt_log2_self
    have hlog : 24 ≤ (num / den).log2 := by
      by_contra hless
      have hle : 2 ^ ((num / den).log2 + 1) ≤ 2 ^ 24 := Nat.pow_le_pow_right (by omega) (by omega)
      omega
    obtain ⟨shift, hshift⟩ : ∃ shift, (num / den).log2 = 23 + shift :=
      ⟨(num / den).log2 - 23, by omega⟩
    have hmagnitude : nearestMagnitude num den =
        shift * 0x800000 + roundHalfEven num (den * 2 ^ shift) := by
      rw [nearestMagnitude]
      dsimp only
      rw [if_neg hsmall, hshift, Nat.add_sub_cancel_left, Nat.shiftLeft_eq]
    have hpos : 0 < 2 ^ shift := by positivity
    rw [hshift] at hlow hhigh
    have hquotient : num / (den * 2 ^ shift) = num / den / 2 ^ shift :=
      (Nat.div_div_eq_div_mul num den (2 ^ shift)).symm
    have hquotientLow : 0x800000 ≤ num / (den * 2 ^ shift) := by
      rw [hquotient, Nat.le_div_iff_mul_le hpos]
      rw [Nat.pow_add] at hlow
      omega
    have hquotientHigh : num / (den * 2 ^ shift) < 0x1000000 := by
      rw [hquotient, Nat.div_lt_iff_lt_mul hpos]
      rw [Nat.add_right_comm, Nat.pow_add] at hhigh
      omega
    refine .inr ⟨shift, by omega, (Nat.le_div_iff_mul_le hden).1 hlow, hmagnitude, ?_⟩
    rw [hmagnitude]
    generalize hrounded : roundHalfEven num (den * 2 ^ shift) = rounded
    have hbounds : 0x800000 ≤ rounded ∧ rounded ≤ 0x1000000 := by
      rcases roundHalfEven_cases num (den * 2 ^ shift) with ⟨-, h⟩ | ⟨-, h⟩ | ⟨-, h⟩ <;> omega
    rw [units_of_le (by omega)]
    by_cases hlast : rounded = 0x1000000
    · -- The rounded quotient carries into the next power of two.
      have hmod : (shift * 0x800000 + rounded) % 0x800000 = 0 := by omega
      have hexponent : (shift * 0x800000 + rounded) / 0x800000 - 1 = shift + 1 := by omega
      rw [hmod, hexponent, hlast, Nat.pow_succ]
      omega
    · have hmod : (shift * 0x800000 + rounded) % 0x800000 = rounded - 0x800000 := by omega
      have hexponent : (shift * 0x800000 + rounded) / 0x800000 - 1 = shift := by omega
      rw [hmod, hexponent, Nat.add_sub_cancel' hbounds.1]

/-- A magnitude below a power of two is farther from what lies beyond than the
power is. -/
theorem gap_lt_gap {num den near far : Nat} (hden : 0 < den) (hnear : near * den ≤ num)
    (hfar : far < near) : gap num den near < gap num den far := by
  have hmul : far * den < near * den := Nat.mul_lt_mul_of_pos_right hfar hden
  unfold gap
  omega

/-- The rounded magnitude is nearest. -/
theorem gap_nearestMagnitude_le {num den : Nat} (hden : 0 < den) (other : Nat) :
    gap num den (units (nearestMagnitude num den)) ≤ gap num den (units other) := by
  rcases nearestMagnitude_cases num hden with ⟨-, hunits⟩ | ⟨shift, hshift, hnum, -, hunits⟩
  · rw [hunits]
    exact gap_roundHalfEven_le num hden (units other)
  · have hdenShift : 0 < den * 2 ^ shift := by positivity
    rw [hunits, ← gap_mul]
    by_cases hfar : 2 ^ (23 + shift) ≤ units other
    · obtain ⟨steps, hsteps⟩ := two_pow_dvd_units hshift hfar
      rw [hsteps, Nat.mul_comm (2 ^ shift), ← gap_mul]
      exact gap_roundHalfEven_le num hdenShift steps
    · have hpower := gap_roundHalfEven_le num hdenShift (2 ^ 23)
      rw [gap_mul num den (2 ^ shift) (2 ^ 23), ← Nat.pow_add] at hpower
      exact hpower.trans (gap_lt_gap hden hnum (by omega)).le

/-- If another magnitude is as near, the rounded one is even. -/
theorem nearestMagnitude_even {num den other : Nat} (hden : 0 < den)
    (hne : other ≠ nearestMagnitude num den)
    (h : gap num den (units other) = gap num den (units (nearestMagnitude num den))) :
    nearestMagnitude num den % 2 = 0 := by
  have hunitsNe : units other ≠ units (nearestMagnitude num den) :=
    fun heq => hne (units_strictMono.injective heq)
  rcases nearestMagnitude_cases num hden with
    ⟨hmagnitude, hunits⟩ | ⟨shift, hshift, hnum, hmagnitude, hunits⟩
  · rw [hunits] at h hunitsNe
    rw [hmagnitude]
    exact roundHalfEven_even hden hunitsNe h
  · have hdenShift : 0 < den * 2 ^ shift := by positivity
    rw [hunits] at h hunitsNe
    rw [← gap_mul] at h
    have hfar : 2 ^ (23 + shift) ≤ units other := by
      by_contra hnear
      have hpower := gap_roundHalfEven_le num hdenShift (2 ^ 23)
      rw [gap_mul num den (2 ^ shift) (2 ^ 23), ← Nat.pow_add] at hpower
      have hlt := gap_lt_gap hden hnum (Nat.lt_of_not_le hnear)
      omega
    obtain ⟨steps, hsteps⟩ := two_pow_dvd_units hshift hfar
    rw [Nat.mul_comm] at hsteps
    rw [hsteps, ← gap_mul] at h
    have hstepsNe : steps ≠ roundHalfEven num (den * 2 ^ shift) := by
      rintro rfl
      exact hunitsNe hsteps
    have heven := roundHalfEven_even hdenShift hstepsNe h
    omega

/-! ## Numbers -/

/-- How far a magnitude is from a size. -/
def distance (magnitude : Nat) (size : Rat) : Rat :=
  |(units magnitude : Rat) / (unitsPerOne : Rat) - size|

/-- The magnitude nearest to a size, as if there were no greatest one.  If
another one is as near, it is the even one. -/
structure IsNearest (magnitude : Nat) (size : Rat) : Prop where
  le : ∀ other, distance magnitude size ≤ distance other size
  even : ∀ other, other ≠ magnitude → distance other size = distance magnitude size →
    magnitude % 2 = 0

/-- The number to which an exact value is rounded.  What is nearest to
infinity, or beyond it, is infinite, and zero is positive. -/
structure IsRounding (x : Binary32) (exact : Rat) : Prop where
  negative : x.negative = decide (exact < 0)
  magnitude : ∃ nearest, IsNearest nearest |exact| ∧ x.magnitude = min nearest infinityMagnitude

theorem abs_eq_natAbs_div (exact : Rat) : |exact| = (exact.num.natAbs : Rat) / exact.den := by
  have hden : (0 : Rat) < exact.den := Nat.cast_pos.2 exact.den_pos
  rw [Nat.cast_natAbs, Int.cast_abs, ← abs_of_pos hden, ← abs_div, Rat.num_div_den]

/-- The distance from a value in terms of its numerator and denominator. -/
theorem distance_abs (magnitude : Nat) (exact : Rat) :
    distance magnitude |exact| =
      (gap (exact.num.natAbs * unitsPerOne) exact.den (units magnitude) : Rat) /
        (unitsPerOne * exact.den) := by
  have hunits := unitsPerOne_pos
  have hden : (0 : Rat) < exact.den := Nat.cast_pos.2 exact.den_pos
  have hgap : (gap (exact.num.natAbs * unitsPerOne) exact.den (units magnitude) : Rat) =
      |(units magnitude : Rat) * exact.den - exact.num.natAbs * unitsPerOne| := by
    rw [gap, Nat.cast_natAbs, Int.cast_abs, Int.cast_sub, Int.cast_natCast, Int.cast_natCast,
      Nat.cast_mul, Nat.cast_mul]
  rw [distance, abs_eq_natAbs_div exact, hgap, div_sub_div _ _ hunits.ne' hden.ne', abs_div,
    abs_of_pos (mul_pos hunits hden), mul_comm (unitsPerOne : Rat) (exact.num.natAbs : Rat)]

theorem isNearest_nearestMagnitude (exact : Rat) :
    IsNearest (nearestMagnitude (exact.num.natAbs * unitsPerOne) exact.den) |exact| := by
  have hpos : (0 : Rat) < unitsPerOne * exact.den :=
    mul_pos unitsPerOne_pos (Nat.cast_pos.2 exact.den_pos)
  refine ⟨?_, ?_⟩
  · intro other
    rw [distance_abs, distance_abs]
    exact div_le_div_of_nonneg_right (Nat.cast_le.2 (gap_nearestMagnitude_le exact.den_pos other))
      hpos.le
  · intro other hne h
    rw [distance_abs, distance_abs, div_left_inj' hpos.ne', Nat.cast_inj] at h
    exact nearestMagnitude_even exact.den_pos hne h

/-- Between two values that are equally near there is a nearer one. -/
theorem abs_sub_lt_of_between {low middle high size : Rat} (hlow : low < middle)
    (hhigh : middle < high) (h : |low - size| = |high - size|) :
    |middle - size| < |low - size| := by
  have hmean : low + high = 2 * size := by
    rcases abs_eq_abs.1 h with heq | heq
    · linarith
    · linarith
  rw [abs_of_neg (by linarith : low - size < 0), abs_lt]
  constructor
  · linarith
  · linarith

/-- Between two magnitudes that are equally near there is a nearer one. -/
theorem distance_lt_of_between {low middle high : Nat} {size : Rat} (hlow : low < middle)
    (hhigh : middle < high) (h : distance low size = distance high size) :
    distance middle size < distance low size := by
  have hvalue {a b : Nat} (hab : a < b) :
      (units a : Rat) / unitsPerOne < (units b : Rat) / unitsPerOne :=
    div_lt_div_of_pos_right (Nat.cast_lt.2 (units_strictMono hab)) unitsPerOne_pos
  exact abs_sub_lt_of_between (hvalue hlow) (hvalue hhigh) h

/-- Only one magnitude is nearest. -/
theorem IsNearest.unique {a b : Nat} {size : Rat} (ha : IsNearest a size) (hb : IsNearest b size) :
    a = b := by
  have hdistance : distance a size = distance b size := le_antisymm (ha.le b) (hb.le a)
  have hnone {low high : Nat} (hlow : IsNearest low size) (hhigh : IsNearest high size)
      (h : distance low size = distance high size) : ¬ low < high := by
    intro hlt
    have hlowEven := hlow.even high (by omega) h.symm
    have hhighEven := hhigh.even low (by omega) h
    have hnearer := distance_lt_of_between (by omega : low < low + 1) (by omega) h
    exact absurd (hlow.le (low + 1)) (not_le.2 hnearer)
  have hba := hnone ha hb hdistance
  have hab := hnone hb ha hdistance.symm
  omega

/-- An exact value is rounded to `ofRat` of it and to nothing else. -/
theorem isRounding_iff {x : Binary32} {exact : Rat} : x.IsRounding exact ↔ x = ofRat exact := by
  constructor
  · intro h
    obtain ⟨negative, magnitude, hlt⟩ := x
    obtain ⟨nearest, hnearest, hmagnitude⟩ := h.magnitude
    have hsign : negative = decide (exact < 0) := h.negative
    dsimp only at hmagnitude
    subst hsign hmagnitude
    rw [ofRat, roundSize, Binary32.mk.injEq]
    exact ⟨rfl, by rw [hnearest.unique (isNearest_nearestMagnitude exact)]⟩
  · rintro rfl
    exact ⟨rfl, _, isNearest_nearestMagnitude exact, rfl⟩

end ColorMarkup.Binary32
