import ColorMarkup.Color.Hsb
import ColorMarkup.Proofs.Color.Channel
import Mathlib.Tactic.IntervalCases

/-!
# ColorMarkup.Proofs.Color.Hsb

Colors by hue, saturation and brightness, channel by channel.

1. A hue counts by the part of a turn that it stands for (`hueTurn`).  Two
   roundings lead from there to an angle in sectors (`angleValue`).  They keep
   the order, and the borders of the sectors (`angleValue_sixth`): a turn can
   be rounded onto a border, but never across one.
2. All channels run through the same six sectors, each from another one on
   (`Channel.start`).  The level of a channel at an angle is exact arithmetic
   with roundings (`Channel.levelAt`, `Color.toNat_channel_ofHsb`).
3. The angles of no turn and of a whole one give the same color, so whole turns
   do not count (`Color.ofHsb_congr`, `Color.ofHsb_cycle`).
-/

namespace ColorMarkup

open Binary32

/-! ## Channels of levels -/

theorem value_sixSectors : sixSectors.value = 6 := by
  exact_mod_cast value_ofNat_of_le (by decide : 6 ≤ 2 ^ 24)

theorem value_fullChannel : fullChannel.value = 255 := by
  exact_mod_cast value_ofNat_of_le (by decide : 255 ≤ 2 ^ 24)

theorem value_oneHalf : oneHalf.value = 1 / 2 := by
  have hhalf : (mkRat 5 (Nat.pow 10 1) : Rat) = ((1 : Nat) : Rat) / 2 ^ 1 := by
    rw [Rat.mkRat_eq_div]
    norm_num
  change rounded (mkRat 5 (Nat.pow 10 1)) = 1 / 2
  rw [hhalf, rounded_div_two_pow (by omega) (by omega)]
  norm_num

/-- A level as a whole number of 255 parts, a half going up, after two
roundings. -/
def levelNumber (level : Rat) : Int :=
  ⌊rounded (rounded (level * 255) + 1 / 2)⌋

theorem levelNumber_mono {a b : Rat} (h : a ≤ b) : levelNumber a ≤ levelNumber b := by
  have hproduct := rounded_mono (mul_le_mul_of_nonneg_right h (by norm_num : (0 : Rat) ≤ 255))
  exact Int.floor_mono (rounded_mono (by linarith))

/-- A level whose parts are a whole number has this number. -/
theorem levelNumber_of_parts {level : Rat} {parts : Nat} (h : level * 255 = parts)
    (hparts : parts ≤ 255) : levelNumber level = parts := by
  have hhalf : (parts : Rat) + 1 / 2 = ((2 * parts + 1 : Nat) : Rat) / 2 ^ 1 := by
    push_cast
    ring
  have hexact : rounded ((parts : Rat) + 1 / 2) = (parts : Rat) + 1 / 2 := by
    rw [hhalf, rounded_div_two_pow (by omega) (by omega)]
  rw [levelNumber, h, rounded_natCast (by omega), hexact, Int.floor_eq_iff, Int.cast_natCast]
  constructor <;> linarith

theorem levelNumber_zero : levelNumber 0 = 0 :=
  levelNumber_of_parts (by norm_num) (Nat.zero_le 255)

theorem levelNumber_one : levelNumber 1 = 255 :=
  levelNumber_of_parts (by norm_num) (Nat.le_refl 255)

theorem levelNumber_mem {level : Rat} (hnonneg : 0 ≤ level) (hone : level ≤ 1) :
    0 ≤ levelNumber level ∧ levelNumber level ≤ 255 :=
  ⟨levelNumber_zero.symm.trans_le (levelNumber_mono hnonneg),
    (levelNumber_mono hone).trans_eq levelNumber_one⟩

/-- The parts of a level and one half are finite. -/
theorem value_levelParts {level : Binary32} (h : level.InUnit) :
    (level * fullChannel + oneHalf).isFinite = true ∧
      (level * fullChannel + oneHalf).value = rounded (rounded (level.value * 255) + 1 / 2) := by
  have hnonneg := h.nonneg
  have hone := h.le_one
  have hparts := value_mul h.isFinite (show fullChannel.isFinite = true by decide)
  rw [value_fullChannel] at hparts
  have hpartsSize : |rounded (level.value * 255)| ≤ (255 : Nat) := by
    apply abs_rounded_le (by omega)
    rw [abs_of_nonneg (by linarith), Nat.cast_ofNat]
    linarith
  have hpartsFinite := isFinite_of_abs_value_le_channel (hparts ▸ hpartsSize)
  have hsum := value_add hpartsFinite (show oneHalf.isFinite = true by decide)
  rw [value_oneHalf, hparts] at hsum
  have hsumSize : |rounded (rounded (level.value * 255) + 1 / 2)| ≤ (256 : Nat) := by
    apply abs_rounded_le (by omega)
    rw [Nat.cast_ofNat] at hpartsSize ⊢
    rw [abs_le] at hpartsSize ⊢
    constructor <;> linarith
  refine ⟨isFinite_of_abs_value_le_two_pow ?_, hsum⟩
  rw [hsum]
  exact hsumSize.trans (by norm_num)

/-- A channel is the number of its level. -/
theorem toNat_channelOfLevel {level : Binary32} (h : level.InUnit) :
    ((channelOfLevel level).toNat : Int) = levelNumber level.value := by
  obtain ⟨hfinite, hvalue⟩ := value_levelParts h
  obtain ⟨hlow, hhigh⟩ := levelNumber_mem h.nonneg h.le_one
  have hnonneg : 0 ≤ (level * fullChannel + oneHalf).value := by
    have hparts := rounded_nonneg (mul_nonneg h.nonneg (by norm_num : (0 : Rat) ≤ 255))
    rw [hvalue]
    exact rounded_nonneg (by linarith)
  have hfloor := value_floor hfinite
  rw [hvalue] at hfloor
  change _ = rounded (levelNumber level.value : Int) at hfloor
  rw [rounded_intCast (by omega)] at hfloor
  unfold channelOfLevel
  rw [saturate_eq (isFinite_floor hfinite hnonneg), hfloor, Int.floor_intCast, UInt8.toNat_ofNat']
  omega

/-! ## Turns and angles -/

/-- The part of a turn that a hue stands for; none for one that is not finite. -/
def hueTurn (hue : Binary32) : Rat :=
  if hue.isFinite then Int.fract hue.value else 0

theorem hueTurn_nonneg (hue : Binary32) : 0 ≤ hueTurn hue := by
  unfold hueTurn
  split
  · exact Int.fract_nonneg _
  · exact le_rfl

theorem hueTurn_lt_one (hue : Binary32) : hueTurn hue < 1 := by
  unfold hueTurn
  split
  · exact Int.fract_lt_one _
  · exact zero_lt_one

/-- The angle of a turn in sectors, after two roundings. -/
def angleValue (turn : Rat) : Rat :=
  rounded (rounded turn * 6)

theorem angleValue_mono : Monotone angleValue := fun _ _ h =>
  rounded_mono (mul_le_mul_of_nonneg_right (rounded_mono h) (by norm_num))

/-- The borders of the sectors are hit. -/
theorem angleValue_sixth {sector : Nat} (h : sector ≤ 6) : angleValue (sector / 6) = sector := by
  have hall : ∀ sector : Nat, sector ≤ 6 → angleValue (sector / 6) = sector := by
    decide +kernel
  exact hall sector h

theorem angleValue_zero : angleValue 0 = 0 := by
  rw [angleValue, rounded_zero, zero_mul, rounded_zero]

theorem angleValue_one : angleValue 1 = 6 := by
  rw [angleValue, rounded_one, one_mul]
  exact_mod_cast rounded_natCast (by decide : 6 ≤ 2 ^ 24)

theorem angleValue_rounded (turn : Rat) : angleValue (rounded turn) = angleValue turn := by
  rw [angleValue, rounded_rounded]
  rfl

/-- The angle of a hue. -/
def hueAngle (hue : Binary32) : Binary32 :=
  (if hue.isFinite then hue.cycle else zero false) * sixSectors

theorem angleValue_hueTurn_mem (hue : Binary32) :
    0 ≤ angleValue (hueTurn hue) ∧ angleValue (hueTurn hue) ≤ 6 := by
  have hlow := angleValue_mono (hueTurn_nonneg hue)
  have hhigh := angleValue_mono (hueTurn_lt_one hue).le
  rw [angleValue_zero] at hlow
  rw [angleValue_one] at hhigh
  exact ⟨hlow, hhigh⟩

theorem value_hueAngle (hue : Binary32) : (hueAngle hue).value = angleValue (hueTurn hue) := by
  have hturn : (if hue.isFinite then hue.cycle else zero false).isFinite = true ∧
      (if hue.isFinite then hue.cycle else zero false).value = rounded (hueTurn hue) := by
    unfold hueTurn
    split
    · rename_i hfinite
      exact ⟨(inUnit_cycle hfinite).isFinite, value_cycle hfinite⟩
    · exact ⟨rfl, by rw [value_zero, rounded_zero]⟩
  rw [hueAngle, value_mul hturn.1 (by decide), hturn.2, value_sixSectors]
  rfl

theorem isFinite_hueAngle (hue : Binary32) : (hueAngle hue).isFinite = true := by
  obtain ⟨hnonneg, hle⟩ := angleValue_hueTurn_mem hue
  apply isFinite_of_abs_value_le_two_pow
  rw [value_hueAngle, abs_of_nonneg hnonneg]
  exact hle.trans (by norm_num)

/-! ## Angles by sector -/

section

variable {angle : Binary32} (hfinite : angle.isFinite = true) (hnonneg : 0 ≤ angle.value)
  (hle : angle.value ≤ 6)
include hfinite hnonneg hle

/-- Up to six, no sector is rounded to another. -/
theorem value_floor_angle : angle.floor.value = (⌊angle.value⌋ : Int) := by
  have hlow : 0 ≤ ⌊angle.value⌋ := Int.floor_nonneg.2 hnonneg
  have hhigh : ⌊angle.value⌋ ≤ 6 := by
    exact_mod_cast (Int.floor_le angle.value).trans hle
  rw [value_floor hfinite, rounded_intCast (by omega)]

/-- The sector of an angle is the whole number below it. -/
theorem saturate_floor_angle : angle.floor.saturate 255 = ⌊angle.value⌋.toNat := by
  have hhigh : ⌊angle.value⌋ ≤ 6 := by
    exact_mod_cast (Int.floor_le angle.value).trans hle
  rw [saturate_eq (isFinite_floor hfinite hnonneg), value_floor_angle hfinite hnonneg hle,
    Int.floor_intCast]
  omega

theorem value_sub_floor_angle :
    (angle - angle.floor).value = rounded (Int.fract angle.value) := by
  rw [value_sub hfinite (isFinite_floor hfinite hnonneg), value_floor_angle hfinite hnonneg hle]
  rfl

theorem inUnit_sub_floor_angle : (angle - angle.floor).InUnit :=
  .of_value_eq_rounded (value_sub_floor_angle hfinite hnonneg hle)
    (Int.fract_nonneg angle.value) (Int.fract_lt_one angle.value).le

end

/-! ## Sectors -/

/-- The level of red in a sector. -/
def redLevel {α : Type} (sector : Nat) (high low falling rising : α) : α :=
  match sector with
  | 1 => falling
  | 2 | 3 => low
  | 4 => rising
  | _ => high

/-- The sector in which a channel has the level that red has in the first. -/
def Channel.start : Channel → Nat
  | .red => 0
  | .green => 2
  | .blue => 4

/-- The phase of a channel in a sector: the sector in which red has the level
that the channel has there. -/
def Channel.phase (c : Channel) (sector : Nat) : Nat :=
  (sector + 6 - c.start) % 6

theorem Channel.start_le (c : Channel) : c.start ≤ 4 := by
  cases c <;> decide

theorem Channel.phase_mod (c : Channel) (sector : Nat) : c.phase (sector % 6) = c.phase sector := by
  have hstart := c.start_le
  unfold phase
  omega

/-- The channels run through the same levels. -/
theorem sectorLevels_eq {sector : Nat} (h : sector < 6) (high low falling rising : Binary32) :
    sectorLevels sector high low falling rising =
      (redLevel (Channel.red.phase sector) high low falling rising,
        redLevel (Channel.green.phase sector) high low falling rising,
        redLevel (Channel.blue.phase sector) high low falling rising) := by
  interval_cases sector <;> rfl

theorem apply_redLevel {α β : Type} (f : α → β) (sector : Nat) (high low falling rising : α) :
    f (redLevel sector high low falling rising) =
      redLevel sector (f high) (f low) (f falling) (f rising) := by
  unfold redLevel
  split <;> rfl

/-- What holds of all four levels holds of the one that is taken. -/
theorem redLevel_of_forall {α : Type} {P : α → Prop} (sector : Nat) {high low falling rising : α}
    (hhigh : P high) (hlow : P low) (hfalling : P falling) (hrising : P rising) :
    P (redLevel sector high low falling rising) := by
  unfold redLevel
  split <;> assumption

/-! ## Levels at an angle -/

/-- What is left of a level without a part of it, after two roundings. -/
def dimmed (level part : Rat) : Rat :=
  rounded (level * rounded (1 - part))

theorem value_dimmed {level part : Binary32} (hlevel : level.InUnit) (hpart : part.InUnit) :
    (level * (one - part)).value = dimmed level.value part.value := by
  rw [hlevel.value_mul hpart.one_sub, hpart.value_one_sub]
  rfl

/-- Where no part is taken away, the whole level is left. -/
theorem dimmed_zero {level : Binary32} (h : level.InUnit) : dimmed level.value 0 = level.value := by
  simp [dimmed, h.rounded_value]

/-- The level of a channel at an angle, in exact arithmetic with roundings. -/
def Channel.levelAt (c : Channel) (saturation brightness angle : Rat) : Rat :=
  redLevel (c.phase ⌊angle⌋.toNat) brightness (dimmed brightness saturation)
    (dimmed brightness (rounded (saturation * rounded (Int.fract angle))))
    (dimmed brightness (rounded (saturation * rounded (1 - rounded (Int.fract angle)))))

/-- Without saturation all levels are the brightness. -/
theorem Channel.levelAt_zero (c : Channel) {brightness : Binary32} (h : brightness.InUnit)
    (angle : Rat) : c.levelAt 0 brightness.value angle = brightness.value := by
  unfold levelAt
  rw [zero_mul, zero_mul, rounded_zero, dimmed_zero h]
  exact redLevel_of_forall (P := (· = brightness.value)) _ rfl rfl rfl rfl

/-- A whole turn leads to the levels of no turn. -/
theorem Channel.levelAt_six (c : Channel) (saturation brightness : Rat) :
    c.levelAt saturation brightness 6 = c.levelAt saturation brightness 0 := by
  have hphase : c.phase ⌊(6 : Rat)⌋.toNat = c.phase ⌊(0 : Rat)⌋.toNat := by
    cases c <;> decide
  have hrest : Int.fract (6 : Rat) = Int.fract (0 : Rat) := by
    rw [Int.fract_ofNat, Int.fract_zero]
  rw [levelAt, levelAt, hphase, hrest]

/-! ## Colors -/

namespace Color

/-- The color of an angle, given some saturation. -/
def ofAngle (angle s v : Binary32) : Color :=
  let f := angle - angle.floor
  let (r, g, b) := sectorLevels (angle.floor.saturate 255 % 6) v (v * (one - s))
    (v * (one - s * f)) (v * (one - s * (one - f)))
  ⟨channelOfLevel r, channelOfLevel g, channelOfLevel b⟩

theorem ofHsb_eq (hue saturation brightness : Binary32) :
    ofHsb hue saturation brightness =
      if (clampUnit (zero false) saturation).isZero then
        gray (channelOfLevel (clampUnit (zero false) brightness))
      else ofAngle (hueAngle hue) (clampUnit (zero false) saturation)
        (clampUnit (zero false) brightness) := by
  unfold ofHsb ofAngle hueAngle
  dsimp only

theorem channel_gray (level : UInt8) (c : Channel) : (gray level).channel c = level := by
  cases c <;> rfl

/-- Every channel has the level of red in another sector. -/
theorem channel_ofAngle (angle s v : Binary32) (c : Channel) :
    (ofAngle angle s v).channel c =
      channelOfLevel (redLevel (c.phase (angle.floor.saturate 255)) v (v * (one - s))
        (v * (one - s * (angle - angle.floor)))
        (v * (one - s * (one - (angle - angle.floor))))) := by
  have hsector : angle.floor.saturate 255 % 6 < 6 := Nat.mod_lt _ (by omega)
  unfold ofAngle
  dsimp only
  rw [sectorLevels_eq hsector, ← c.phase_mod]
  cases c <;> rfl

/-- The level of a channel in terms of exact values. -/
theorem toNat_channel_ofAngle {angle s v : Binary32} (hfinite : angle.isFinite = true)
    (hnonneg : 0 ≤ angle.value) (hle : angle.value ≤ 6) (hs : s.InUnit) (hv : v.InUnit)
    (c : Channel) :
    (((ofAngle angle s v).channel c).toNat : Int) =
      levelNumber (c.levelAt s.value v.value angle.value) := by
  have hrest := inUnit_sub_floor_angle hfinite hnonneg hle
  have hfalling := hs.mul hrest
  have hrising := hs.mul hrest.one_sub
  have hlevel := redLevel_of_forall (P := InUnit) (c.phase (angle.floor.saturate 255)) hv
    (hv.mul hs.one_sub) (hv.mul hfalling.one_sub) (hv.mul hrising.one_sub)
  rw [channel_ofAngle, toNat_channelOfLevel hlevel, apply_redLevel value, value_dimmed hv hs,
    value_dimmed hv hfalling, value_dimmed hv hrising, hs.value_mul hrest,
    hs.value_mul hrest.one_sub, hrest.value_one_sub, value_sub_floor_angle hfinite hnonneg hle,
    saturate_floor_angle hfinite hnonneg hle]
  rfl

/-- Every channel of a color has the level at the angle of its hue. -/
theorem toNat_channel_ofHsb (hue saturation brightness : Binary32) (c : Channel) :
    (((ofHsb hue saturation brightness).channel c).toNat : Int) =
      levelNumber (c.levelAt (clampUnit (zero false) saturation).value
        (clampUnit (zero false) brightness).value (angleValue (hueTurn hue))) := by
  have hs := inUnit_clampUnit saturation
  have hv := inUnit_clampUnit brightness
  rw [ofHsb_eq]
  split
  · rename_i hzero
    rw [channel_gray, toNat_channelOfLevel hv, isZero_iff.1 hzero, c.levelAt_zero hv]
  · have hangle := value_hueAngle hue
    obtain ⟨hnonneg, hle⟩ := angleValue_hueTurn_mem hue
    rw [toNat_channel_ofAngle (isFinite_hueAngle hue) (hangle ▸ hnonneg) (hangle ▸ hle) hs hv,
      hangle]

variable {hue hue' : Binary32}

/-- A channel at whose angle a level stands is the channel of this level. -/
theorem channel_ofHsb_eq {saturation brightness level : Binary32} {c : Channel}
    (hlevel : level.InUnit)
    (h : c.levelAt (clampUnit (zero false) saturation).value
      (clampUnit (zero false) brightness).value (angleValue (hueTurn hue)) = level.value) :
    (ofHsb hue saturation brightness).channel c = channelOfLevel level := by
  have hchannel := toNat_channel_ofHsb hue saturation brightness c
  rw [h, ← toNat_channelOfLevel hlevel] at hchannel
  exact UInt8.toNat_inj.1 (by exact_mod_cast hchannel)

/-- Hues at angles of the same levels have the same colors. -/
theorem ofHsb_congr (saturation brightness : Binary32)
    (h : ∀ c : Channel, ∀ s v : Rat,
      c.levelAt s v (angleValue (hueTurn hue)) = c.levelAt s v (angleValue (hueTurn hue'))) :
    ofHsb hue saturation brightness = ofHsb hue' saturation brightness := by
  refine ext_channel fun c => UInt8.toNat_inj.1 ?_
  have hchannel := toNat_channel_ofHsb hue saturation brightness c
  rw [h, ← toNat_channel_ofHsb hue' saturation brightness c] at hchannel
  exact_mod_cast hchannel

/-- Whole turns do not count. -/
theorem ofHsb_eq_of_sub_eq_intCast (hfinite : hue.isFinite = true) (hfinite' : hue'.isFinite = true)
    {turns : Int} (h : hue.value - hue'.value = turns) (saturation brightness : Binary32) :
    ofHsb hue saturation brightness = ofHsb hue' saturation brightness := by
  have hturn : hueTurn hue = hueTurn hue' := by
    rw [hueTurn, hueTurn, if_pos hfinite, if_pos hfinite']
    exact Int.fract_eq_fract.2 ⟨turns, h⟩
  exact ofHsb_congr saturation brightness fun c s v => by rw [hturn]

/-- Nor do they count where the rest of a hue is rounded to a whole turn. -/
theorem ofHsb_cycle (hfinite : hue.isFinite = true) (saturation brightness : Binary32) :
    ofHsb hue.cycle saturation brightness = ofHsb hue saturation brightness := by
  have hcycle : hueTurn hue.cycle = Int.fract (rounded (hueTurn hue)) := by
    rw [hueTurn, hueTurn, if_pos hfinite, if_pos (inUnit_cycle hfinite).isFinite,
      value_cycle hfinite]
  obtain ⟨hnonneg, hone⟩ := rounded_mem_unit (hueTurn_nonneg hue) (hueTurn_lt_one hue).le
  refine ofHsb_congr saturation brightness fun c s v => ?_
  rw [hcycle]
  rcases lt_or_eq_of_le hone with hless | hwhole
  · rw [Int.fract_eq_self.2 ⟨hnonneg, hless⟩, angleValue_rounded]
  · have hlast : angleValue (hueTurn hue) = 6 := by
      rw [← angleValue_rounded, hwhole, angleValue_one]
    rw [hlast, c.levelAt_six, hwhole, Int.fract_one, angleValue_zero]

end Color

end ColorMarkup
