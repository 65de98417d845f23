import ColorMarkup.Color.Blend
import ColorMarkup.Proofs.Color.Channel

/-!
# ColorMarkup.Proofs.Color.Blend

Blended colors, channel by channel.

1. A channel is blended in exact arithmetic with two roundings (`blendValue`),
   and then to the nearest whole number (`toNat_blendChannel`).
2. Both roundings keep the order of values, and neither changes the two ends.
   So the result lies between the ends (`Color.between_blend`), and it moves
   from the start to the end as the fraction grows (`Color.noFarther_blend`).
3. A fraction close to zero or one already gives an end itself
   (`Color.blend_eq_start`, `Color.blend_eq_stop`).

`Color.blend_runs` puts these together for all fractions, infinite ones and
those that are not numbers included.
-/

namespace ColorMarkup

open Binary32

/-! ## Between two colors -/

namespace Color

/-- No level of a color lies outside those of two others. -/
def Between (start stop color : Color) : Prop :=
  ∀ c, min (start.channel c).toNat (stop.channel c).toNat ≤ (color.channel c).toNat ∧
    (color.channel c).toNat ≤ max (start.channel c).toNat (stop.channel c).toNat

/-- No level of the later color is farther from that of the goal than the level
of the earlier color is. -/
def NoFarther (goal earlier later : Color) : Prop :=
  ∀ c, |((later.channel c).toNat : Int) - (goal.channel c).toNat| ≤
    |((earlier.channel c).toNat : Int) - (goal.channel c).toNat|

/-- Between a color and itself there is no other. -/
theorem Between.eq {color other : Color} (h : Between color color other) : other = color :=
  ext_channel fun c => UInt8.toNat_inj.1
    (le_antisymm ((h c).2.trans_eq (max_self _)) ((min_self _).symm.trans_le (h c).1))

/-- Each channel is blended by itself. -/
theorem channel_blend (start stop : Color) (fraction : Binary32) (c : Channel) :
    (start.blend stop fraction).channel c =
      blendChannel (start.channel c) (stop.channel c) (clampUnit (zero false) fraction) := by
  cases c <;> rfl

end Color

/-! ## Exact arithmetic with two roundings -/

/-- The value on the way from one level to another, before it becomes a whole
number. -/
def blendValue (start stop : Nat) (fraction : Rat) : Rat :=
  rounded (start + rounded ((stop - start) * fraction))

variable {start stop : Nat}

/-- On the way up the value grows with the fraction. -/
theorem blendValue_mono (h : start ≤ stop) : Monotone (blendValue start stop) := by
  intro a b hab
  have hdifference : (0 : Rat) ≤ stop - start := sub_nonneg.2 (Nat.cast_le.2 h)
  have hproduct := rounded_mono (mul_le_mul_of_nonneg_left hab hdifference)
  exact rounded_mono (by linarith)

/-- On the way down it shrinks. -/
theorem blendValue_anti (h : stop ≤ start) : Antitone (blendValue start stop) := by
  intro a b hab
  have hdifference : (stop : Rat) - start ≤ 0 := sub_nonpos.2 (Nat.cast_le.2 h)
  have hproduct := rounded_mono (mul_le_mul_of_nonpos_left hab hdifference)
  exact rounded_mono (by linarith)

/-- Fractions of nine binary digits give levels without any rounding. -/
theorem blendValue_div (hstart : start ≤ 255) (hstop : stop ≤ 255) {parts : Nat}
    (hparts : parts ≤ 512) :
    blendValue start stop (parts / 512) = start + (stop - start) * (parts / 512 : Rat) := by
  have hproduct : rounded ((stop - start) * (parts / 512 : Rat)) =
      (stop - start) * (parts / 512 : Rat) := by
    have hcount : (((stop : Int) - start) * parts).natAbs ≤ 2 ^ 24 := by
      rw [Int.natAbs_mul, Int.natAbs_natCast]
      have hle := Nat.mul_le_mul (by omega : ((stop : Int) - start).natAbs ≤ 255) hparts
      omega
    have hexact := rounded_intCast_div_two_pow hcount (by omega : 9 ≤ 149)
    push_cast at hexact
    norm_num at hexact
    rwa [mul_div_assoc] at hexact
  have hsum : rounded (start + (stop - start) * (parts / 512 : Rat)) =
      start + (stop - start) * (parts / 512 : Rat) := by
    have hcount : ((512 - parts) * start + parts * stop) ≤ 2 ^ 24 := by
      have hle := Nat.mul_le_mul (by omega : 512 - parts ≤ 512) hstart
      have hle' := Nat.mul_le_mul hparts hstop
      omega
    have hexact := rounded_div_two_pow hcount (by omega : 9 ≤ 149)
    rw [Nat.cast_add, Nat.cast_mul, Nat.cast_mul, Nat.cast_sub hparts] at hexact
    have heq : ((start : Rat) + (stop - start) * (parts / 512 : Rat)) =
        (((512 : Nat) - parts) * start + parts * stop) / 2 ^ 9 := by
      push_cast
      ring
    rw [heq, hexact]
  rw [blendValue, hproduct, hsum]

/-- The value stays within the range of a channel. -/
theorem blendValue_mem (hstart : start ≤ 255) (hstop : stop ≤ 255) {fraction : Rat}
    (hzero : 0 ≤ fraction) (hone : fraction ≤ 1) :
    0 ≤ blendValue start stop fraction ∧ blendValue start stop fraction ≤ 255 := by
  have hfirst : blendValue start stop 0 = start := by
    have hnone := blendValue_div hstart hstop (Nat.zero_le 512)
    rwa [Nat.cast_zero, zero_div, mul_zero, add_zero] at hnone
  have hlast : blendValue start stop 1 = stop := by
    have hall := blendValue_div hstart hstop (Nat.le_refl 512)
    rwa [Nat.cast_ofNat, div_self (by norm_num), mul_one, add_sub_cancel] at hall
  have hstart' : (0 : Rat) ≤ start ∧ (start : Rat) ≤ 255 :=
    ⟨Nat.cast_nonneg start, by exact_mod_cast hstart⟩
  have hstop' : (0 : Rat) ≤ stop ∧ (stop : Rat) ≤ 255 :=
    ⟨Nat.cast_nonneg stop, by exact_mod_cast hstop⟩
  rcases le_total start stop with hup | hdown
  · have hafter := blendValue_mono hup hzero
    have hbefore := blendValue_mono hup hone
    constructor <;> linarith
  · have hafter := blendValue_anti hdown hzero
    have hbefore := blendValue_anti hdown hone
    constructor <;> linarith

/-! ## Levels -/

/-- The level on the way from one level to another: the nearest whole number, a
half going up. -/
def blendLevel (start stop : Nat) (fraction : Rat) : Int :=
  ⌊blendValue start stop fraction + 1 / 2⌋

theorem blendLevel_mono (h : start ≤ stop) {a b : Rat} (hab : a ≤ b) :
    blendLevel start stop a ≤ blendLevel start stop b :=
  Int.floor_mono (by linarith [blendValue_mono h hab])

theorem blendLevel_anti (h : stop ≤ start) {a b : Rat} (hab : a ≤ b) :
    blendLevel start stop b ≤ blendLevel start stop a :=
  Int.floor_mono (by linarith [blendValue_anti h hab])

/-- Between two fractions that give the same level, others give it too. -/
theorem blendLevel_eq_of_between {low high fraction : Rat} {level : Int} (hlow : low ≤ fraction)
    (hhigh : fraction ≤ high) (hlowLevel : blendLevel start stop low = level)
    (hhighLevel : blendLevel start stop high = level) :
    blendLevel start stop fraction = level := by
  rcases le_total start stop with hup | hdown
  · have hafter := blendLevel_mono hup hlow
    have hbefore := blendLevel_mono hup hhigh
    omega
  · have hafter := blendLevel_anti hdown hlow
    have hbefore := blendLevel_anti hdown hhigh
    omega

section

variable (hstart : start ≤ 255) (hstop : stop ≤ 255)
include hstart hstop

/-- The first 512th of the way is too short to leave the start. -/
theorem blendLevel_div_of_le {parts : Nat} (h : parts ≤ 1) :
    blendLevel start stop (parts / 512) = start := by
  have hstart' : (start : Rat) ≤ 255 := by exact_mod_cast hstart
  have hstop' : (stop : Rat) ≤ 255 := by exact_mod_cast hstop
  have hstartNonneg : (0 : Rat) ≤ start := Nat.cast_nonneg start
  have hstopNonneg : (0 : Rat) ≤ stop := Nat.cast_nonneg stop
  rw [blendLevel, blendValue_div hstart hstop (by omega), Int.floor_eq_iff, Int.cast_natCast]
  rcases (by omega : parts = 0 ∨ parts = 1) with rfl | rfl
  · constructor <;> push_cast <;> linarith
  · constructor <;> push_cast <;> linarith

/-- Before the last 512th of the way the end is reached. -/
theorem blendLevel_div_of_ge {parts : Nat} (hlow : 511 ≤ parts) (h : parts ≤ 512) :
    blendLevel start stop (parts / 512) = stop := by
  have hstart' : (start : Rat) ≤ 255 := by exact_mod_cast hstart
  have hstop' : (stop : Rat) ≤ 255 := by exact_mod_cast hstop
  have hstartNonneg : (0 : Rat) ≤ start := Nat.cast_nonneg start
  have hstopNonneg : (0 : Rat) ≤ stop := Nat.cast_nonneg stop
  rw [blendLevel, blendValue_div hstart hstop h, Int.floor_eq_iff, Int.cast_natCast]
  rcases (by omega : parts = 511 ∨ parts = 512) with rfl | rfl
  · constructor <;> push_cast <;> linarith
  · constructor <;> push_cast <;> linarith

theorem blendLevel_zero : blendLevel start stop 0 = start := by
  have hnone := blendLevel_div_of_le hstart hstop (Nat.zero_le 1)
  rwa [Nat.cast_zero, zero_div] at hnone

theorem blendLevel_one : blendLevel start stop 1 = stop := by
  have hall := blendLevel_div_of_ge hstart hstop (by omega) (Nat.le_refl 512)
  rwa [Nat.cast_ofNat, div_self (by norm_num)] at hall

variable {fraction fraction' : Rat}

theorem blendLevel_eq_start (hzero : 0 ≤ fraction) (h : fraction ≤ 1 / 512) :
    blendLevel start stop fraction = start := by
  have hnear := blendLevel_div_of_le hstart hstop (Nat.le_refl 1)
  rw [Nat.cast_one] at hnear
  exact blendLevel_eq_of_between hzero h (blendLevel_zero hstart hstop) hnear

theorem blendLevel_eq_stop (h : 511 / 512 ≤ fraction) (hone : fraction ≤ 1) :
    blendLevel start stop fraction = stop := by
  have hnear := blendLevel_div_of_ge hstart hstop (Nat.le_refl 511) (by omega)
  rw [Nat.cast_ofNat] at hnear
  exact blendLevel_eq_of_between h hone hnear (blendLevel_one hstart hstop)

/-- The level lies between the two ends. -/
theorem blendLevel_mem (hzero : 0 ≤ fraction) (hone : fraction ≤ 1) :
    (min start stop : Int) ≤ blendLevel start stop fraction ∧
      blendLevel start stop fraction ≤ (max start stop : Int) := by
  have hfirst := blendLevel_zero hstart hstop
  have hlast := blendLevel_one hstart hstop
  rcases le_total start stop with hup | hdown
  · have hafter := blendLevel_mono hup hzero
    have hbefore := blendLevel_mono hup hone
    omega
  · have hafter := blendLevel_anti hdown hzero
    have hbefore := blendLevel_anti hdown hone
    omega

/-- The level does not move away from the end. -/
theorem abs_blendLevel_sub_le (hle : fraction ≤ fraction') (hone : fraction' ≤ 1) :
    |blendLevel start stop fraction' - stop| ≤ |blendLevel start stop fraction - stop| := by
  have hlast := blendLevel_one hstart hstop
  rcases le_total start stop with hup | hdown
  · have hstep := blendLevel_mono hup hle
    have hend := blendLevel_mono hup hone
    rw [abs_of_nonpos (by omega), abs_of_nonpos (by omega)]
    omega
  · have hstep := blendLevel_anti hdown hle
    have hend := blendLevel_anti hdown hone
    rw [abs_of_nonneg (by omega), abs_of_nonneg (by omega)]
    omega

end

/-! ## Channels of blended colors -/

/-- On the way the value is finite. -/
theorem value_blend {start stop : Nat} (hstart : start ≤ 255) (hstop : stop ≤ 255)
    {fraction : Binary32} (h : fraction.InUnit) :
    (ofNat start + (ofNat stop - ofNat start) * fraction).isFinite = true ∧
      (ofNat start + (ofNat stop - ofNat start) * fraction).value =
        blendValue start stop fraction.value := by
  have hstartValue : (ofNat start).value = start := value_ofNat_of_le (by omega)
  have hstopValue : (ofNat stop).value = stop := value_ofNat_of_le (by omega)
  have hstartFinite := isFinite_ofNat_channel hstart
  have hstopFinite := isFinite_ofNat_channel hstop
  -- The difference is exact, and the way along it is no longer than it is.
  have hdifference : (ofNat stop - ofNat start).value = (stop : Rat) - start := by
    have hwhole : ((stop : Int) - start).natAbs ≤ 2 ^ 24 := by omega
    rw [value_sub hstopFinite hstartFinite, hstartValue, hstopValue]
    exact_mod_cast rounded_intCast hwhole
  have hsize : |(stop : Rat) - start| ≤ (255 : Nat) := by
    have hwhole : |(stop : Int) - start| ≤ (255 : Nat) := abs_le.2 ⟨by omega, by omega⟩
    exact_mod_cast hwhole
  have hway := value_mul (isFinite_of_abs_value_le_channel (hdifference ▸ hsize)) h.isFinite
  rw [hdifference] at hway
  have hwaySize : |((stop : Rat) - start) * fraction.value| ≤ (255 : Nat) := by
    rw [abs_mul, abs_of_nonneg h.nonneg]
    exact (mul_le_of_le_one_right (abs_nonneg _) h.le_one).trans hsize
  have hwayFinite := isFinite_of_abs_value_le_channel (hway ▸ abs_rounded_le (by omega) hwaySize)
  have hvalue := value_add hstartFinite hwayFinite
  rw [hstartValue, hway] at hvalue
  change _ = blendValue start stop fraction.value at hvalue
  refine ⟨isFinite_of_abs_value_le_channel ?_, hvalue⟩
  obtain ⟨hlow, hhigh⟩ := blendValue_mem hstart hstop h.nonneg h.le_one
  rw [hvalue, abs_of_nonneg hlow, Nat.cast_ofNat]
  exact hhigh

/-- A blended channel is the level of the two channels at the fraction's
value. -/
theorem toNat_blendChannel (start stop : UInt8) {fraction : Binary32} (h : fraction.InUnit) :
    ((blendChannel start stop fraction).toNat : Int) =
      blendLevel start.toNat stop.toNat fraction.value := by
  have hstart : start.toNat ≤ 255 := toNat_le_channel start
  have hstop : stop.toNat ≤ 255 := toNat_le_channel stop
  obtain ⟨hfinite, hvalue⟩ := value_blend hstart hstop h
  have hlevel := blendLevel_mem hstart hstop h.nonneg h.le_one
  have hround := value_round hfinite (hvalue ▸ (blendValue_mem hstart hstop h.nonneg h.le_one).1)
  rw [hvalue] at hround
  change _ = rounded (blendLevel start.toNat stop.toNat fraction.value : Int) at hround
  rw [rounded_intCast (by omega)] at hround
  have hroundFinite : (ofNat start.toNat +
      (ofNat stop.toNat - ofNat start.toNat) * fraction).round.isFinite = true := by
    apply isFinite_of_abs_value_le_channel
    have hsize : |blendLevel start.toNat stop.toNat fraction.value| ≤ (255 : Nat) :=
      abs_le.2 ⟨by omega, by omega⟩
    rw [hround]
    exact_mod_cast hsize
  unfold blendChannel
  dsimp only
  rw [saturate_eq hroundFinite, hround, Int.floor_intCast, UInt8.toNat_ofNat']
  omega

namespace Color

/-- A blended color lies between the two, whatever the fraction is. -/
theorem between_blend (start stop : Color) (fraction : Binary32) :
    Between start stop (start.blend stop fraction) := by
  intro c
  have hunit := fraction.inUnit_clampUnit
  have hlevel := toNat_blendChannel (start.channel c) (stop.channel c) hunit
  have hmem := blendLevel_mem (toNat_le_channel (start.channel c))
    (toNat_le_channel (stop.channel c)) hunit.nonneg hunit.le_one
  rw [channel_blend]
  omega

/-- A greater fraction leads no farther from the end. -/
theorem noFarther_blend (start stop : Color) {fraction fraction' : Binary32}
    (h : (clampUnit (zero false) fraction).value ≤ (clampUnit (zero false) fraction').value) :
    NoFarther stop (start.blend stop fraction) (start.blend stop fraction') := by
  intro c
  rw [channel_blend, channel_blend, toNat_blendChannel _ _ fraction.inUnit_clampUnit,
    toNat_blendChannel _ _ fraction'.inUnit_clampUnit]
  exact abs_blendLevel_sub_le (toNat_le_channel (start.channel c))
    (toNat_le_channel (stop.channel c)) h fraction'.inUnit_clampUnit.le_one

/-- A fraction close to zero gives the start. -/
theorem blend_eq_start (start stop : Color) {fraction : Binary32}
    (h : (clampUnit (zero false) fraction).value ≤ 1 / 512) : start.blend stop fraction = start := by
  have hunit := fraction.inUnit_clampUnit
  refine ext_channel fun c => UInt8.toNat_inj.1 ?_
  have hlevel := toNat_blendChannel (start.channel c) (stop.channel c) hunit
  rw [blendLevel_eq_start (toNat_le_channel (start.channel c))
    (toNat_le_channel (stop.channel c)) hunit.nonneg h] at hlevel
  rw [channel_blend]
  exact_mod_cast hlevel

/-- A fraction close to one gives the end. -/
theorem blend_eq_stop (start stop : Color) {fraction : Binary32}
    (h : 511 / 512 ≤ (clampUnit (zero false) fraction).value) :
    start.blend stop fraction = stop := by
  have hunit := fraction.inUnit_clampUnit
  refine ext_channel fun c => UInt8.toNat_inj.1 ?_
  have hlevel := toNat_blendChannel (start.channel c) (stop.channel c) hunit
  rw [blendLevel_eq_stop (toNat_le_channel (start.channel c))
    (toNat_le_channel (stop.channel c)) h hunit.le_one] at hlevel
  rw [channel_blend]
  exact_mod_cast hlevel

/-! ## The whole way -/

/-- A blend lies between its two colors, so a color blended with itself stays
the same.  It is the first color for every fraction that is not a number or not
above zero, and the second one from one on.  In between, no channel ever moves
back. -/
theorem blend_runs (start stop : Color) :
    (∀ fraction, Between start stop (start.blend stop fraction)) ∧
      (∀ fraction, start.blend start fraction = start) ∧
      (∀ fraction, fraction.isNaN = true ∨ fraction ≤ zero false →
        start.blend stop fraction = start) ∧
      (∀ fraction, one ≤ fraction → start.blend stop fraction = stop) ∧
      ∀ fraction fraction', fraction ≤ fraction' →
        NoFarther stop (start.blend stop fraction) (start.blend stop fraction') := by
  refine ⟨between_blend start stop, fun fraction => (between_blend start start fraction).eq,
    ?_, ?_, ?_⟩
  · intro fraction h
    apply blend_eq_start
    rw [value_clampUnit_of_le_zero h]
    norm_num
  · intro fraction h
    apply blend_eq_stop
    rw [value_clampUnit_of_one_le h (zero false)]
    norm_num
  · intro fraction fraction' h
    exact noFarther_blend start stop (value_clampUnit_mono h (zero false))

/-- Red and blue, blended with fractions at both ends and beyond them. -/
theorem blend_runs_red_blue :
    (nan.isNaN = true ∧ blend ⟨255, 0, 0⟩ ⟨0, 0, 255⟩ nan = ⟨255, 0, 0⟩) ∧
      (zero true ≤ zero false ∧ blend ⟨255, 0, 0⟩ ⟨0, 0, 255⟩ (zero true) = ⟨255, 0, 0⟩) ∧
      (one ≤ infinity false ∧ blend ⟨255, 0, 0⟩ ⟨0, 0, 255⟩ (infinity false) = ⟨0, 0, 255⟩) ∧
      ofDecimal 1 1 ≤ ofDecimal 5 1 ∧
      blend ⟨255, 0, 0⟩ ⟨0, 0, 255⟩ (ofDecimal 1 1) = ⟨230, 0, 26⟩ ∧
      blend ⟨255, 0, 0⟩ ⟨0, 0, 255⟩ (ofDecimal 5 1) = ⟨128, 0, 128⟩ ∧
      NoFarther ⟨0, 0, 255⟩ (blend ⟨255, 0, 0⟩ ⟨0, 0, 255⟩ (ofDecimal 1 1))
        (blend ⟨255, 0, 0⟩ ⟨0, 0, 255⟩ (ofDecimal 5 1)) := by
  obtain ⟨-, -, hstart, hstop, hmoves⟩ := blend_runs ⟨255, 0, 0⟩ ⟨0, 0, 255⟩
  have hnan : nan.isNaN = true := by decide
  have hzero : zero true ≤ zero false := by decide
  have hone : one ≤ infinity false := by decide
  have hfractions : ofDecimal 1 1 ≤ ofDecimal 5 1 := by decide +kernel
  exact ⟨⟨hnan, hstart _ (.inl hnan)⟩, ⟨hzero, hstart _ (.inr hzero)⟩, ⟨hone, hstop _ hone⟩,
    hfractions, by decide +kernel, by decide +kernel, hmoves _ _ hfractions⟩

end Color

end ColorMarkup
