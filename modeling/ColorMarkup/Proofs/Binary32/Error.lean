import ColorMarkup.Proofs.Binary32.Rounded

/-!
# ColorMarkup.Proofs.Binary32.Error

How far rounding moves a value.

1. Between the least normal number and the powers of two that are finite,
   rounding moves a value by at most one part in `2 ^ 24`
   (`abs_rounded_sub_le`).
2. `Within` counts such parts along a computation: an exact factor adds none,
   a quotient has at most twice those of both operands, and every rounding adds
   at most two.
-/

namespace ColorMarkup.Binary32

/-! ## The error of rounding -/

/-- A rounded quotient is at most one half off. -/
theorem two_mul_gap_roundHalfEven_le (num : Nat) {den : Nat} (hden : 0 < den) :
    2 * gap num den (roundHalfEven num den) ≤ den := by
  have hdivision : num / den * den + num % den = num := Nat.div_add_mod' num den
  have hexcess : num % den < den := Nat.mod_lt num hden
  unfold gap
  rcases roundHalfEven_cases num den with ⟨hcase, hround⟩ | ⟨hcase, hround⟩ | ⟨hcase, hround⟩
  · rw [hround]
    omega
  · rw [hround, Nat.succ_mul (num / den) den]
    omega
  · rcases Nat.mod_two_eq_zero_or_one (num / den) with hparity | hparity
    · rw [hround, hparity, Nat.add_zero]
      omega
    · rw [hround, hparity, Nat.succ_mul (num / den) den]
      omega

/-- From the least normal number on, the nearest magnitude is at most one part
in `2 ^ 24` off. -/
theorem two_pow_mul_gap_nearestMagnitude_le {num den : Nat} (hden : 0 < den)
    (h : 2 ^ 23 * den ≤ num) :
    2 ^ 24 * gap num den (units (nearestMagnitude num den)) ≤ num := by
  rcases nearestMagnitude_cases num hden with ⟨-, hunits⟩ | ⟨shift, -, hnum, -, hunits⟩
  · have hhalf := two_mul_gap_roundHalfEven_le num hden
    rw [hunits]
    omega
  · have hhalf := two_mul_gap_roundHalfEven_le num (by positivity : 0 < den * 2 ^ shift)
    rw [gap_mul] at hhalf
    rw [Nat.pow_add, Nat.mul_assoc, Nat.mul_comm (2 ^ shift)] at hnum
    rw [hunits]
    omega

/-- Rounding changes an exact value by the distance of its magnitude. -/
theorem abs_rounded_sub (exact : Rat) :
    |rounded exact - exact| = distance (ofRat exact).magnitude |exact| := by
  rcases le_total 0 exact with h | h
  · rw [rounded_of_nonneg h, distance, abs_of_nonneg h]
  · have hflip := rounded_of_nonneg (neg_nonneg.2 h)
    rw [rounded_neg, magnitude_ofRat_neg] at hflip
    rw [distance, ← hflip, abs_of_nonpos h, ← neg_sub', abs_neg]

/-- Up to a power of two that is finite the nearest magnitude is taken. -/
theorem magnitude_ofRat_eq {exact : Rat} (h : |exact| ≤ 2 ^ 127) :
    (ofRat exact).magnitude = nearestMagnitude (exact.num.natAbs * unitsPerOne) exact.den := by
  have hunits : units 0x7F000000 = 2 ^ 276 := by decide +kernel
  have hpower : (units 0x7F000000 : Rat) / unitsPerOne = 2 ^ 127 := by
    rw [hunits, unitsPerOne_eq, Nat.cast_pow, Nat.cast_ofNat, div_eq_iff (by positivity),
      ← pow_add]
  have hle := (isNearest_nearestMagnitude exact).mono (isNearest_units 0x7F000000)
    (h.trans hpower.ge)
  have hlt : (0x7F000000 : Nat) < infinityMagnitude := by decide
  exact min_eq_left (hle.trans hlt.le)

/-- Rounding moves a value by at most one part in `2 ^ 24`, from the least
normal number up to a power of two that is finite. -/
theorem abs_rounded_sub_le {exact : Rat} (hlow : 1 / 2 ^ 126 ≤ |exact|)
    (hhigh : |exact| ≤ 2 ^ 127) : |rounded exact - exact| ≤ |exact| / 2 ^ 24 := by
  have hunits := unitsPerOne_pos
  have hden : (0 : Rat) < exact.den := Nat.cast_pos.2 exact.den_pos
  have hnormal : 2 ^ 23 * exact.den ≤ exact.num.natAbs * unitsPerOne := by
    rw [abs_eq_natAbs_div, div_le_div_iff₀ (by positivity) hden, one_mul] at hlow
    have hle : exact.den ≤ exact.num.natAbs * 2 ^ 126 := by exact_mod_cast hlow
    rw [unitsPerOne, Nat.one_shiftLeft]
    omega
  have hgap : (2 : Rat) ^ 24 * gap (exact.num.natAbs * unitsPerOne) exact.den
      (units (ofRat exact).magnitude) ≤ exact.num.natAbs * unitsPerOne := by
    rw [magnitude_ofRat_eq hhigh]
    exact_mod_cast two_pow_mul_gap_nearestMagnitude_le exact.den_pos hnormal
  rw [abs_rounded_sub, distance_abs, abs_eq_natAbs_div, div_div,
    div_le_div_iff₀ (mul_pos hunits hden) (mul_pos hden (by positivity))]
  calc
    _ = (2 : Rat) ^ 24 * gap (exact.num.natAbs * unitsPerOne) exact.den
          (units (ofRat exact).magnitude) * exact.den := by ring
    _ ≤ exact.num.natAbs * unitsPerOne * exact.den := mul_le_mul_of_nonneg_right hgap hden.le
    _ = exact.num.natAbs * (unitsPerOne * exact.den) := by ring

/-! ## Errors along a computation -/

/-- A value differs from an exact one that is not below zero by at most some
parts in `2 ^ 24` of it. -/
def Within (parts : Nat) (exact approx : Rat) : Prop :=
  0 ≤ exact ∧ |approx - exact| ≤ parts * (exact / 2 ^ 24)

variable {parts parts' : Nat} {exact exact' approx approx' : Rat}

theorem Within.le (h : Within parts exact approx) :
    exact - parts * (exact / 2 ^ 24) ≤ approx := by
  linarith [(abs_le.1 h.2).1]

theorem Within.ge (h : Within parts exact approx) :
    approx ≤ exact + parts * (exact / 2 ^ 24) := by
  linarith [(abs_le.1 h.2).2]

/-- Rounding alone is one part. -/
theorem within_rounded (hlow : 1 / 2 ^ 126 ≤ exact) (hhigh : exact ≤ 2 ^ 127) :
    Within 1 exact (rounded exact) := by
  have hnonneg : 0 ≤ exact := le_trans (by norm_num) hlow
  refine ⟨hnonneg, ?_⟩
  have herror := @abs_rounded_sub_le exact
  rw [abs_of_nonneg hnonneg] at herror
  rw [Nat.cast_one, one_mul]
  exact herror hlow hhigh

/-- A few parts leave at least half of the exact value, and no more than
double it. -/
theorem Within.half_le (h : Within parts exact approx) (hparts : parts ≤ 2 ^ 23) :
    exact / 2 ≤ approx ∧ approx ≤ 2 * exact := by
  have hparts' : (parts : Rat) ≤ 2 ^ 23 := by exact_mod_cast hparts
  have hshare : 0 ≤ exact / 2 ^ 24 := div_nonneg h.1 (by norm_num)
  have hall := mul_le_mul_of_nonneg_right hparts' hshare
  have hlow := h.le
  have hhigh := h.ge
  have hexact := h.1
  constructor <;> linarith

/-- Rounding adds at most two parts. -/
theorem Within.rounded (h : Within parts exact approx) (hparts : parts ≤ 2 ^ 23)
    (hlow : 1 / 2 ^ 125 ≤ exact) (hhigh : exact ≤ 2 ^ 126) :
    Within (parts + 2) exact (rounded approx) := by
  obtain ⟨hhalf, hdouble⟩ := h.half_le hparts
  have hnonneg : 0 ≤ approx := le_trans (div_nonneg h.1 zero_le_two) hhalf
  have hstep : |Binary32.rounded approx - approx| ≤ |approx| / 2 ^ 24 := by
    apply abs_rounded_sub_le
    · rw [abs_of_nonneg hnonneg]
      refine le_trans ?_ hhalf
      linarith
    · rw [abs_of_nonneg hnonneg]
      linarith
  rw [abs_of_nonneg hnonneg] at hstep
  refine ⟨h.1, ?_⟩
  calc
    |Binary32.rounded approx - exact|
      ≤ |Binary32.rounded approx - approx| + |approx - exact| := abs_sub_le _ _ _
    _ ≤ 2 * exact / 2 ^ 24 + parts * (exact / 2 ^ 24) := by
      have hdouble' : approx / 2 ^ 24 ≤ 2 * exact / 2 ^ 24 := by linarith
      exact add_le_add (hstep.trans hdouble') h.2
    _ = (parts + 2 : Nat) * (exact / 2 ^ 24) := by
      push_cast
      ring

/-- A factor that is exact adds no parts. -/
theorem Within.mul_right (h : Within parts exact approx) {factor : Rat} (hfactor : 0 ≤ factor) :
    Within parts (exact * factor) (approx * factor) := by
  refine ⟨mul_nonneg h.1 hfactor, ?_⟩
  calc
    |approx * factor - exact * factor| = |approx - exact| * factor := by
      rw [← sub_mul, abs_mul, abs_of_nonneg hfactor]
    _ ≤ parts * (exact / 2 ^ 24) * factor := mul_le_mul_of_nonneg_right h.2 hfactor
    _ = parts * (exact * factor / 2 ^ 24) := by ring

/-- A quotient has at most twice the parts of both operands. -/
theorem Within.div (h : Within parts exact approx) (h' : Within parts' exact' approx')
    (hparts : parts' ≤ 2 ^ 23) (hpos : 0 < exact') :
    Within (2 * (parts + parts')) (exact / exact') (approx / approx') := by
  have hhalf := (h'.half_le hparts).1
  have hpos' : 0 < approx' := lt_of_lt_of_le (half_pos hpos) hhalf
  refine ⟨div_nonneg h.1 hpos.le, ?_⟩
  have hcross : |approx * exact' - approx' * exact| ≤
      (parts + parts') * (exact / 2 ^ 24) * exact' := by
    have hleft := mul_le_mul_of_nonneg_right h.2 hpos.le
    have hright := mul_le_mul_of_nonneg_left h'.2 h.1
    have hsum := abs_sub ((approx - exact) * exact') (exact * (approx' - exact'))
    rw [abs_mul, abs_mul, abs_of_nonneg hpos.le, abs_of_nonneg h.1] at hsum
    calc
      |approx * exact' - approx' * exact|
        = |(approx - exact) * exact' - exact * (approx' - exact')| := by ring_nf
      _ ≤ |approx - exact| * exact' + exact * |approx' - exact'| := hsum
      _ ≤ parts * (exact / 2 ^ 24) * exact' + exact * (parts' * (exact' / 2 ^ 24)) :=
        add_le_add hleft hright
      _ = (parts + parts') * (exact / 2 ^ 24) * exact' := by ring
  rw [div_sub_div _ _ hpos'.ne' hpos.ne', abs_div, abs_of_pos (mul_pos hpos' hpos),
    div_le_iff₀ (mul_pos hpos' hpos)]
  have hshare : 0 ≤ (parts + parts' : Rat) * (exact / 2 ^ 24) :=
    mul_nonneg (by positivity) (div_nonneg h.1 (by norm_num))
  calc
    |approx * exact' - approx' * exact| ≤ (parts + parts') * (exact / 2 ^ 24) * exact' := hcross
    _ ≤ (parts + parts') * (exact / 2 ^ 24) * (2 * approx') :=
      mul_le_mul_of_nonneg_left (by linarith) hshare
    _ = (2 * (parts + parts') : Nat) * (exact / exact' / 2 ^ 24) * (approx' * exact') := by
      push_cast
      field_simp

end ColorMarkup.Binary32
