import ColorMarkup.Proofs.Binary32.Rounding
import Mathlib.Tactic.FieldSimp
import Mathlib.Tactic.NormNum
import Mathlib.Tactic.Ring

/-!
# ColorMarkup.Proofs.Binary32.Rounded

Rounding as a function from exact values to exact values.

1. `rounded` is the value of the number to which an exact value is rounded.  It
   keeps the order of exact values and their signs (`rounded_mono`,
   `rounded_neg`), and the values of the format themselves (`rounded_value`).
2. A whole number of at most 24 binary digits, divided by a power of two, is
   such a value (`rounded_div_two_pow`).
-/

namespace ColorMarkup.Binary32

/-! ## Values by magnitude -/

theorem unitsPerOne_eq : (unitsPerOne : Rat) = 2 ^ 149 := by
  rw [unitsPerOne, Nat.one_shiftLeft, Nat.cast_pow, Nat.cast_ofNat]

theorem value_of_negative {x : Binary32} (h : x.negative = true) :
    x.value = -((units x.magnitude : Rat) / (unitsPerOne : Rat)) := by
  rw [value, h]
  rfl

theorem units_div_nonneg (magnitude : Nat) : (0 : Rat) ≤ units magnitude / unitsPerOne :=
  div_nonneg (Nat.cast_nonneg _) unitsPerOne_pos.le

/-- Greater magnitudes stand for greater values. -/
theorem units_div_le_iff {a b : Nat} :
    (units a : Rat) / unitsPerOne ≤ (units b : Rat) / unitsPerOne ↔ a ≤ b := by
  rw [div_le_div_iff_of_pos_right unitsPerOne_pos, Nat.cast_le, units_strictMono.le_iff_le]

/-- The size of a number is that of its magnitude. -/
theorem abs_value (x : Binary32) : |x.value| = (units x.magnitude : Rat) / unitsPerOne := by
  cases h : x.negative with
  | false => rw [value_of_not_negative h, abs_of_nonneg (units_div_nonneg _)]
  | true => rw [value_of_negative h, abs_neg, abs_of_nonneg (units_div_nonneg _)]

/-- Of two numbers the one of greater size has the greater magnitude. -/
theorem abs_value_le_abs_value_iff {x y : Binary32} :
    |x.value| ≤ |y.value| ↔ x.magnitude ≤ y.magnitude := by
  rw [abs_value, abs_value, units_div_le_iff]

/-- What is no larger than a finite number is finite. -/
theorem isFinite_of_abs_value_le {x y : Binary32} (hy : y.isFinite = true)
    (h : |x.value| ≤ |y.value|) : x.isFinite = true := by
  rw [abs_value_le_abs_value_iff] at h
  simp only [isFinite, decide_eq_true_eq] at hy ⊢
  omega

/-! ## Nearest magnitudes -/

/-- The magnitude of a size is nearest to it. -/
theorem isNearest_units (magnitude : Nat) :
    IsNearest magnitude ((units magnitude : Rat) / unitsPerOne) where
  le other := by
    rw [distance, sub_self, abs_zero]
    exact abs_nonneg _
  even other hne h := by
    rw [distance, distance, sub_self, abs_zero, abs_eq_zero, sub_eq_zero] at h
    have hle := units_div_le_iff.1 h.le
    have hge := units_div_le_iff.1 h.ge
    omega

/-- A size is at least the mean of two values if the greater one is as near. -/
theorem mean_le_of_abs_sub_le {low high size : Rat} (hlt : low < high)
    (h : |high - size| ≤ |low - size|) : (low + high) / 2 ≤ size := by
  by_contra hless
  have hlow : |low - size| < high - size := abs_lt.2 ⟨by linarith, by linarith⟩
  exact absurd (hlow.trans_le (le_abs_self (high - size))) (not_lt.2 h)

/-- A size is at most the mean of two values if the smaller one is as near. -/
theorem le_mean_of_abs_sub_le {low high size : Rat} (hlt : low < high)
    (h : |low - size| ≤ |high - size|) : size ≤ (low + high) / 2 := by
  by_contra hmore
  have hhigh : |high - size| < -(low - size) := abs_lt.2 ⟨by linarith, by linarith⟩
  exact absurd (hhigh.trans_le (neg_le_abs (low - size))) (not_lt.2 h)

/-- Greater sizes have greater nearest magnitudes. -/
theorem IsNearest.mono {a b : Nat} {small large : Rat} (ha : IsNearest a small)
    (hb : IsNearest b large) (h : small ≤ large) : a ≤ b := by
  by_contra hlt
  have hless : (units b : Rat) / unitsPerOne < (units a : Rat) / unitsPerOne :=
    lt_of_not_ge fun hle => hlt (units_div_le_iff.1 hle)
  -- Both sizes are the mean of the two values, and so they have the same nearest magnitude.
  have hsmall := mean_le_of_abs_sub_le hless (ha.le b)
  have hlarge := le_mean_of_abs_sub_le hless (hb.le a)
  have heq : small = large := by linarith
  subst heq
  exact hlt (ha.unique hb).le

/-! ## Magnitudes of rounded values -/

theorem exists_isNearest_ofRat (exact : Rat) :
    ∃ nearest, IsNearest nearest |exact| ∧
      (ofRat exact).magnitude = min nearest infinityMagnitude :=
  ⟨_, isNearest_nearestMagnitude exact, rfl⟩

/-- Rounding keeps the order of sizes. -/
theorem magnitude_ofRat_mono {a b : Rat} (h : |a| ≤ |b|) :
    (ofRat a).magnitude ≤ (ofRat b).magnitude := by
  obtain ⟨nearest, hnearest, hmagnitude⟩ := exists_isNearest_ofRat a
  obtain ⟨nearest', hnearest', hmagnitude'⟩ := exists_isNearest_ofRat b
  have hle := hnearest.mono hnearest' h
  rw [hmagnitude, hmagnitude']
  omega

theorem magnitude_ofRat_neg (exact : Rat) : (ofRat (-exact)).magnitude = (ofRat exact).magnitude :=
  le_antisymm (magnitude_ofRat_mono (abs_neg exact).le) (magnitude_ofRat_mono (abs_neg exact).ge)

/-- Up to infinity the value of a number is rounded to the number's own
magnitude. -/
theorem magnitude_ofRat_value {x : Binary32} (hx : x.magnitude ≤ infinityMagnitude) :
    (ofRat x.value).magnitude = x.magnitude := by
  obtain ⟨nearest, hnearest, hmagnitude⟩ := exists_isNearest_ofRat x.value
  rw [abs_value] at hnearest
  rw [hmagnitude, hnearest.unique (isNearest_units x.magnitude)]
  omega

/-! ## Rounded values -/

/-- The exact value of the number to which an exact value is rounded. -/
def rounded (exact : Rat) : Rat :=
  (ofRat exact).value

theorem rounded_of_nonneg {exact : Rat} (h : 0 ≤ exact) :
    rounded exact = (units (ofRat exact).magnitude : Rat) / unitsPerOne :=
  value_of_not_negative (decide_eq_false (not_lt.2 h))

theorem rounded_neg (exact : Rat) : rounded (-exact) = -rounded exact := by
  rcases lt_trichotomy exact 0 with hneg | rfl | hpos
  · have hvalue : rounded exact = -((units (ofRat exact).magnitude : Rat) / unitsPerOne) :=
      value_of_negative (decide_eq_true hneg)
    rw [rounded_of_nonneg (neg_pos.2 hneg).le, magnitude_ofRat_neg, hvalue, neg_neg]
  · have hunits : units (ofRat 0).magnitude = 0 := by decide
    rw [neg_zero, rounded_of_nonneg le_rfl, hunits, Nat.cast_zero, zero_div, neg_zero]
  · have hvalue : rounded (-exact) = -((units (ofRat (-exact)).magnitude : Rat) / unitsPerOne) :=
      value_of_negative (decide_eq_true (neg_neg_iff_pos.2 hpos))
    rw [hvalue, magnitude_ofRat_neg, rounded_of_nonneg hpos.le]

theorem rounded_nonneg {exact : Rat} (h : 0 ≤ exact) : 0 ≤ rounded exact := by
  rw [rounded_of_nonneg h]
  exact units_div_nonneg _

/-- Rounding keeps the order of exact values. -/
theorem rounded_mono : Monotone rounded := by
  intro a b h
  have hsize {a b : Rat} (ha : 0 ≤ a) (hab : a ≤ b) : rounded a ≤ rounded b := by
    rw [rounded_of_nonneg ha, rounded_of_nonneg (ha.trans hab), units_div_le_iff]
    exact magnitude_ofRat_mono (abs_le_abs_of_nonneg ha hab)
  rcases le_total 0 a with ha | ha
  · exact hsize ha h
  · rcases le_total 0 b with hb | hb
    · have hneg := rounded_nonneg (neg_nonneg.2 ha)
      rw [rounded_neg, neg_nonneg] at hneg
      exact hneg.trans (rounded_nonneg hb)
    · have hsizes := hsize (neg_nonneg.2 hb) (neg_le_neg h)
      rwa [rounded_neg, rounded_neg, neg_le_neg_iff] at hsizes

/-- Up to infinity the value of a number is rounded to itself. -/
theorem rounded_value {x : Binary32} (hx : x.magnitude ≤ infinityMagnitude) :
    rounded x.value = x.value := by
  cases hsign : x.negative with
  | false =>
      have hvalue := value_of_not_negative hsign
      rw [rounded_of_nonneg (hvalue ▸ units_div_nonneg _), magnitude_ofRat_value hx, hvalue]
  | true =>
      have hvalue := value_of_negative hsign
      have hnonneg : 0 ≤ -x.value := by
        rw [hvalue, neg_neg]
        exact units_div_nonneg _
      have hrounded := rounded_of_nonneg hnonneg
      rw [rounded_neg, magnitude_ofRat_neg, magnitude_ofRat_value hx] at hrounded
      linarith

/-- What is rounded is not changed by rounding it again. -/
@[simp] theorem rounded_rounded (exact : Rat) : rounded (rounded exact) = rounded exact :=
  rounded_value (Nat.min_le_right _ _)

/-- Where the sign fits, a size is rounded like the exact value. -/
theorem value_roundSize {negative : Bool} {exact : Rat}
    (h : if negative then exact ≤ 0 else 0 ≤ exact) :
    (roundSize negative exact).value = rounded exact := by
  cases negative with
  | false =>
      rw [rounded_of_nonneg h]
      exact value_of_not_negative rfl
  | true =>
      have hflip := rounded_of_nonneg (neg_nonneg.2 h)
      have hvalue : (roundSize true exact).value =
          -((units (ofRat exact).magnitude : Rat) / unitsPerOne) := value_of_negative rfl
      rw [rounded_neg, magnitude_ofRat_neg] at hflip
      linarith

/-- What is rounded to no larger a value than a finite number is finite. -/
theorem isFinite_roundSize {negative : Bool} {exact : Rat} {x : Binary32}
    (hx : x.isFinite = true) (h : |exact| ≤ |x.value|) :
    (roundSize negative exact).isFinite = true := by
  have hle : (roundSize negative exact).magnitude ≤ (ofRat x.value).magnitude :=
    magnitude_ofRat_mono h
  simp only [isFinite, decide_eq_true_eq] at hx ⊢
  rw [magnitude_ofRat_value hx.le] at hle
  omega

/-! ## Values of the format -/

/-- A multiple of the divisor is divided without rounding. -/
theorem roundHalfEven_mul (value : Nat) {den : Nat} (hden : 0 < den) :
    roundHalfEven (value * den) den = value := by
  have hmod : value * den % den = 0 := Nat.mul_mod_left value den
  have hdiv : value * den / den = value := Nat.mul_div_left value hden
  rcases roundHalfEven_cases (value * den) den with ⟨-, h⟩ | ⟨hcase, -⟩ | ⟨hcase, -⟩
  · rw [h, hdiv]
  · omega
  · omega

/-- A count of at most 24 binary digits, doubled any number of times, is the
units of a magnitude. -/
theorem exists_units_eq {count : Nat} (hcount : count ≤ 2 ^ 24) (shift : Nat) :
    ∃ magnitude, units magnitude = count * 2 ^ shift := by
  refine ⟨nearestMagnitude (count * 2 ^ shift) 1, ?_⟩
  rcases nearestMagnitude_cases (count * 2 ^ shift) Nat.one_pos with
    ⟨-, hunits⟩ | ⟨step, -, hnum, -, hunits⟩
  · rw [hunits]
    have hwhole := roundHalfEven_mul (count * 2 ^ shift) Nat.one_pos
    rwa [Nat.mul_one] at hwhole
  · -- The step of the numbers here divides the count, which has no more digits than they have.
    rw [Nat.mul_one] at hnum
    rw [Nat.one_mul] at hunits
    have hdvd : 2 ^ step ∣ count * 2 ^ shift := by
      rcases Nat.lt_or_ge shift step with hlt | hge
      · have hpow : 2 ^ (23 + step) ≤ 2 ^ (24 + shift) := by
          rw [Nat.pow_add 2 24 shift]
          exact hnum.trans (Nat.mul_le_mul_right _ hcount)
        have hstep := (Nat.pow_le_pow_iff_right (by omega : 1 < 2)).1 hpow
        have hlast : count = 2 ^ 24 := by
          have hstep : step = shift + 1 := by omega
          rw [hstep, ← Nat.add_assoc, Nat.add_right_comm, Nat.pow_add 2 (23 + 1) shift] at hnum
          exact le_antisymm hcount (Nat.le_of_mul_le_mul_right hnum (by positivity))
        rw [hlast, ← Nat.pow_add]
        exact Nat.pow_dvd_pow 2 (by omega)
      · exact Dvd.dvd.mul_left (Nat.pow_dvd_pow 2 hge) count
    obtain ⟨steps, hsteps⟩ := hdvd
    rw [hunits, hsteps, Nat.mul_comm (2 ^ step), roundHalfEven_mul steps (by positivity)]

/-- A whole number of at most 24 binary digits, divided by a power of two, is
the value of a finite number. -/
theorem exists_value_eq {count exponent : Nat} (hcount : count ≤ 2 ^ 24)
    (hexponent : exponent ≤ 149) :
    ∃ x : Binary32, x.isFinite = true ∧ x.value = (count : Rat) / 2 ^ exponent := by
  obtain ⟨magnitude, hunits⟩ := exists_units_eq hcount (149 - exponent)
  have hlt : magnitude < infinityMagnitude := by
    rw [← units_strictMono.lt_iff_lt, hunits]
    have hpow : 2 ^ (149 - exponent) ≤ 2 ^ 149 := Nat.pow_le_pow_right (by omega) (by omega)
    calc
      count * 2 ^ (149 - exponent) ≤ 2 ^ 24 * 2 ^ 149 := Nat.mul_le_mul hcount hpow
      _ < units infinityMagnitude := by decide
  refine ⟨⟨false, magnitude, hlt.trans (by decide)⟩, decide_eq_true hlt, ?_⟩
  have hsplit : (2 : Rat) ^ 149 = 2 ^ (149 - exponent) * 2 ^ exponent := by
    rw [← pow_add, Nat.sub_add_cancel hexponent]
  rw [value_of_not_negative rfl, hunits, unitsPerOne_eq, hsplit, Nat.cast_mul, Nat.cast_pow,
    Nat.cast_ofNat]
  field_simp

/-- A whole number of at most 24 binary digits, divided by a power of two, is
not changed by rounding. -/
theorem rounded_div_two_pow {count exponent : Nat} (hcount : count ≤ 2 ^ 24)
    (hexponent : exponent ≤ 149) :
    rounded ((count : Rat) / 2 ^ exponent) = (count : Rat) / 2 ^ exponent := by
  obtain ⟨x, hfinite, hvalue⟩ := exists_value_eq hcount hexponent
  simp only [isFinite, decide_eq_true_eq] at hfinite
  rw [← hvalue, rounded_value hfinite.le]

/-- The same holds of a whole number below zero. -/
theorem rounded_intCast_div_two_pow {count : Int} {exponent : Nat} (hcount : count.natAbs ≤ 2 ^ 24)
    (hexponent : exponent ≤ 149) :
    rounded ((count : Rat) / 2 ^ exponent) = (count : Rat) / 2 ^ exponent := by
  obtain ⟨size, rfl | rfl⟩ := Int.eq_nat_or_neg count
  · rw [Int.natAbs_natCast] at hcount
    rw [Int.cast_natCast, rounded_div_two_pow hcount hexponent]
  · rw [Int.natAbs_neg, Int.natAbs_natCast] at hcount
    rw [Int.cast_neg, Int.cast_natCast, neg_div, rounded_neg, rounded_div_two_pow hcount hexponent]

theorem rounded_intCast {count : Int} (h : count.natAbs ≤ 2 ^ 24) : rounded count = count := by
  have hwhole := rounded_intCast_div_two_pow h (Nat.zero_le 149)
  rwa [pow_zero, div_one] at hwhole

theorem rounded_natCast {count : Nat} (h : count ≤ 2 ^ 24) : rounded count = count := by
  have hwhole := rounded_div_two_pow h (Nat.zero_le 149)
  rwa [pow_zero, div_one] at hwhole

/-- Powers of two that are finite are not changed by rounding. -/
theorem rounded_two_pow {exponent : Nat} (h : exponent ≤ 127) :
    rounded (2 ^ exponent) = 2 ^ exponent := by
  have hmagnitude : (exponent + 127) * 0x800000 < infinityMagnitude := by
    have hle : (exponent + 127) * 0x800000 ≤ 254 * 0x800000 := Nat.mul_le_mul_right _ (by omega)
    exact hle.trans_lt (by decide)
  have hunits : units ((exponent + 127) * 0x800000) = 2 ^ exponent * 2 ^ 149 := by
    have hmod : (exponent + 127) * 0x800000 % 0x800000 = 0 := Nat.mul_mod_left _ _
    have hdiv : (exponent + 127) * 0x800000 / 0x800000 - 1 = exponent + 126 := by omega
    rw [units_of_le (by omega), hmod, hdiv, Nat.pow_add]
    omega
  have hvalue := rounded_value (x := ⟨false, _, hmagnitude.trans (by decide)⟩) hmagnitude.le
  rwa [value_of_not_negative rfl, hunits, unitsPerOne_eq, Nat.cast_mul, Nat.cast_pow, Nat.cast_pow,
    Nat.cast_ofNat, mul_div_cancel_right₀ _ (by positivity)] at hvalue

/-- Rounding does not leave the range up to a whole number. -/
theorem abs_rounded_le {exact : Rat} {bound : Nat} (hbound : bound ≤ 2 ^ 24)
    (h : |exact| ≤ bound) : |rounded exact| ≤ bound := by
  have hhigh := rounded_mono (abs_le.1 h).2
  have hlow := rounded_mono (abs_le.1 h).1
  rw [rounded_neg] at hlow
  rw [rounded_natCast hbound] at hlow hhigh
  exact abs_le.2 ⟨hlow, hhigh⟩

@[simp] theorem rounded_zero : rounded 0 = 0 := by
  exact_mod_cast rounded_natCast (Nat.zero_le (2 ^ 24))

@[simp] theorem rounded_one : rounded 1 = 1 := by
  exact_mod_cast rounded_natCast (Nat.one_le_two_pow (n := 24))

end ColorMarkup.Binary32
