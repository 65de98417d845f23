import ColorMarkup.Effect.Rainbow
import ColorMarkup.Proofs.Color.Hsb
import ColorMarkup.Proofs.Effect.Share

/-!
# ColorMarkup.Proofs.Effect.Rainbow

The hues of rainbows.

1. A hue is made from the share that a unit has of the steps of its rainbow
   (`Rainbow.hue_eq`), and there is always a step to divide by
   (`Rainbow.steps_pos`).
2. A looping rainbow multiplies the share with its turns and leaves out whole
   ones, so its hues stay below one (`Rainbow.value_hue_of_looping`).
3. Any other holds the share to one, which the last unit reaches
   (`Rainbow.value_hue_of_not_looping`).

`Rainbow.hue_sweeps` puts these together.  Hues that differ by whole turns have
the same color (`Color.ofHsb_periodic`), and so the colors of a rainbow end
where they started.
-/

namespace ColorMarkup

open Binary32

namespace Rainbow

/-! ## Shares of a rainbow -/

/-- How many steps a rainbow counts over some units. -/
def steps (rainbow : Rainbow) (length : Nat) : Nat :=
  if rainbow.looping then max length 1 else max (max length 1 - 1) 1

/-- The hue at a share of the steps. -/
def hueOfShare (rainbow : Rainbow) (share : Binary32) : Binary32 :=
  if rainbow.looping then (share * ofNat (max rainbow.speed.toNat 1)).cycle
  else clamp (zero false) one share

variable (rainbow : Rainbow) {index length : Nat}

theorem hue_eq (index length : Nat) :
    rainbow.hue index length =
      rainbow.hueOfShare (ofNat index / ofNat (rainbow.steps length)) := by
  unfold hue hueOfShare steps
  split <;> rfl

theorem steps_pos (length : Nat) : 0 < rainbow.steps length := by
  unfold steps
  split <;> omega

theorem steps_lt (h : length < 2 ^ 64) : rainbow.steps length < 2 ^ 64 := by
  unfold steps
  split <;> omega

/-! ## Hues -/

/-- The turns of a looping rainbow up to a unit, before whole ones are left
out. -/
def turnsValue (rainbow : Rainbow) (index length : Nat) : Rat :=
  rounded (shareValue index (rainbow.steps length) * rounded (max rainbow.speed.toNat 1 : Nat))

theorem turnsValue_nonneg (rainbow : Rainbow) (index length : Nat) :
    0 ≤ rainbow.turnsValue index length :=
  rounded_nonneg (mul_nonneg (shareValue_nonneg _ _) (rounded_nonneg (Nat.cast_nonneg _)))

section

variable (hindex : index < 2 ^ 64) (hlength : length < 2 ^ 64)
include hindex hlength

theorem value_share_steps :
    (ofNat index / ofNat (rainbow.steps length)).value =
      shareValue index (rainbow.steps length) :=
  value_share hindex (rainbow.steps_pos length) (rainbow.steps_lt hlength)

theorem isFinite_share_steps : (ofNat index / ofNat (rainbow.steps length)).isFinite = true :=
  isFinite_share hindex (rainbow.steps_pos length) (rainbow.steps_lt hlength)

/-- The turns up to a unit are a rounded product, too small to overflow. -/
theorem value_turns :
    (ofNat index / ofNat (rainbow.steps length) *
        ofNat (max rainbow.speed.toNat 1)).isFinite = true ∧
      (ofNat index / ofNat (rainbow.steps length) * ofNat (max rainbow.speed.toNat 1)).value =
        turnsValue rainbow index length := by
  have hspeed : max rainbow.speed.toNat 1 ≤ 2 ^ 32 := by
    have hlt := rainbow.speed.toNat_lt
    omega
  have hvalue := value_mul (rainbow.isFinite_share_steps hindex hlength)
    (isFinite_ofNat_of_lt (by omega : max rainbow.speed.toNat 1 < 2 ^ 64))
  rw [rainbow.value_share_steps hindex hlength, value_ofNat] at hvalue
  change _ = turnsValue rainbow index length at hvalue
  refine ⟨isFinite_of_abs_value_le_two_pow ?_, hvalue⟩
  have hshare := shareValue_le_two_pow (rainbow.steps_pos length) hindex.le (by omega)
  have hturns := rounded_natCast_le_two_pow hspeed (by omega)
  have hproduct := rounded_mono
    (mul_le_mul hshare hturns (rounded_nonneg (Nat.cast_nonneg _)) (by positivity))
  rw [← pow_add, rounded_two_pow (by omega)] at hproduct
  rw [hvalue, abs_of_nonneg (turnsValue_nonneg rainbow index length)]
  exact hproduct.trans (by norm_num)

/-- The hue of a looping rainbow is what whole turns leave, without rounding. -/
theorem value_hue_of_looping (h : rainbow.looping = true) :
    (rainbow.hue index length).value = Int.fract (turnsValue rainbow index length) := by
  obtain ⟨hfinite, hvalue⟩ := rainbow.value_turns hindex hlength
  rw [hue_eq, hueOfShare, if_pos h, value_cycle_of_nonneg hfinite, hvalue]
  rw [hvalue]
  exact turnsValue_nonneg rainbow index length

/-- The hue of any other rainbow is the share, held to one. -/
theorem value_hue_of_not_looping (h : rainbow.looping = false) :
    (rainbow.hue index length).value = min 1 (shareValue index (rainbow.steps length)) := by
  have hnan := isNaN_of_isFinite (rainbow.isFinite_share_steps hindex hlength)
  rw [hue_eq, hueOfShare, h, if_neg (by decide), value_clamp_unit hnan,
    rainbow.value_share_steps hindex hlength, max_eq_right (shareValue_nonneg _ _)]

/-- Hues lie between zero and one. -/
theorem inUnit_hue : (rainbow.hue index length).InUnit := by
  cases h : rainbow.looping with
  | false =>
      have hvalue := rainbow.value_hue_of_not_looping hindex hlength h
      apply InUnit.of_value
      · rw [hvalue]
        exact le_min zero_le_one (shareValue_nonneg _ _)
      · rw [hvalue]
        exact min_le_left _ _
  | true =>
      have hvalue := rainbow.value_hue_of_looping hindex hlength h
      apply InUnit.of_value
      · rw [hvalue]
        exact Int.fract_nonneg _
      · rw [hvalue]
        exact (Int.fract_lt_one _).le

end

/-- The first unit has no hue. -/
theorem value_hue_zero (hlength : length < 2 ^ 64) : (rainbow.hue 0 length).value = 0 := by
  cases h : rainbow.looping with
  | false =>
      rw [rainbow.value_hue_of_not_looping (by omega) hlength h, shareValue_zero,
        min_eq_right zero_le_one]
  | true =>
      rw [rainbow.value_hue_of_looping (by omega) hlength h, turnsValue, shareValue_zero, zero_mul,
        rounded_zero, Int.fract_zero]

/-- From the last unit on, the hue of a rainbow that does not loop is one. -/
theorem value_hue_last (h : rainbow.looping = false) (hlength : length < 2 ^ 64)
    (hunits : 2 ≤ length) (hlast : length - 1 ≤ index) (hindex : index < 2 ^ 64) :
    (rainbow.hue index length).value = 1 := by
  have hsteps : rainbow.steps length = length - 1 := by
    rw [steps, h, if_neg (by decide)]
    omega
  have hshare := shareValue_mono hlast (length - 1)
  rw [shareValue_self (by omega)] at hshare
  rw [rainbow.value_hue_of_not_looping hindex hlength h, hsteps, min_eq_left hshare]

/-- A rainbow always divides by a count that is not zero, whatever the unit and
the length are, and gives a hue between zero and one, below one if it loops.
The hue starts at zero.  Unless the rainbow loops it never falls, and it is one
from the last unit on. -/
theorem hue_sweeps (hlength : length < 2 ^ 64) :
    (∀ index < 2 ^ 64,
        rainbow.hue index length =
            rainbow.hueOfShare (ofNat index / ofNat (rainbow.steps length)) ∧
          (ofNat (rainbow.steps length)).isZero = false ∧
          (rainbow.hue index length).InUnit ∧
          (rainbow.looping = true → (rainbow.hue index length).value < 1)) ∧
      (rainbow.hue 0 length).value = 0 ∧
      (rainbow.looping = false →
        (∀ index index', index ≤ index' → index' < 2 ^ 64 →
          (rainbow.hue index length).value ≤ (rainbow.hue index' length).value) ∧
        (2 ≤ length → ∀ index, length - 1 ≤ index → index < 2 ^ 64 →
          (rainbow.hue index length).value = 1)) := by
  refine ⟨?_, rainbow.value_hue_zero hlength, ?_⟩
  · intro index hindex
    refine ⟨rainbow.hue_eq index length, isZero_ofNat (rainbow.steps_pos length),
      rainbow.inUnit_hue hindex hlength, ?_⟩
    intro h
    rw [rainbow.value_hue_of_looping hindex hlength h]
    exact Int.fract_lt_one _
  · intro h
    refine ⟨?_, fun hunits index hlast hindex =>
      rainbow.value_hue_last h hlength hunits hlast hindex⟩
    intro index index' hle hindex'
    rw [rainbow.value_hue_of_not_looping (by omega) hlength h,
      rainbow.value_hue_of_not_looping hindex' hlength h]
    exact min_le_min le_rfl (shareValue_mono hle _)

/-- A sweep over five units, and beyond them, and the last unit that can be
counted of an empty span, looping as often as can be. -/
theorem hue_sweeps_beyond :
    ((held 0 one one false).looping = false ∧ 2 ≤ 5 ∧ 5 < 2 ^ 64 ∧
        ((held 0 one one false).hue 2 5).value = 1 / 2 ∧
        ((held 0 one one false).hue 2 5).value ≤ ((held 0 one one false).hue 3 5).value ∧
        5 - 1 ≤ 9 ∧ 9 < 2 ^ 64 ∧ ((held 0 one one false).hue 9 5).value = 1) ∧
      ((held 0xFFFFFFFF one one true).looping = true ∧ 0 < 2 ^ 64 ∧ 2 ^ 64 - 1 < 2 ^ 64 ∧
        (ofNat ((held 0xFFFFFFFF one one true).steps 0)).isZero = false ∧
        ((held 0xFFFFFFFF one one true).hue (2 ^ 64 - 1) 0).InUnit ∧
        ((held 0xFFFFFFFF one one true).hue (2 ^ 64 - 1) 0).value < 1) := by
  obtain ⟨-, -, honce⟩ := hue_sweeps (held 0 one one false) (by decide : 5 < 2 ^ 64)
  obtain ⟨hmono, hlast⟩ := honce rfl
  obtain ⟨hunits, -, -⟩ := hue_sweeps (held 0xFFFFFFFF one one true) (by decide : 0 < 2 ^ 64)
  obtain ⟨-, hsteps, hunit, hless⟩ := hunits (2 ^ 64 - 1) (by decide)
  exact ⟨⟨rfl, by decide, by decide, by decide +kernel, hmono 2 3 (by decide) (by decide),
      by decide, by decide, hlast (by decide) 9 (by decide) (by decide)⟩,
    ⟨rfl, by decide, by decide, hsteps, hunit, hless rfl⟩⟩

/-! ## Colors -/

theorem getElem?_colors {index length : Nat} (h : index < length) :
    (rainbow.colors length)[index]? =
      some (Color.ofHsb (rainbow.hue index length) rainbow.saturation rainbow.brightness) := by
  rw [colors, List.getElem?_map, List.getElem?_range h, Option.map_some]

/-- The colors of a rainbow that does not loop end where they started. -/
theorem exists_color_at_ends (h : rainbow.looping = false) {length : Nat} (hunits : 2 ≤ length)
    (hlength : length < 2 ^ 64) :
    ∃ color, (rainbow.colors length).head? = some color ∧
      (rainbow.colors length).getLast? = some color := by
  have hfirst := rainbow.getElem?_colors (by omega : 0 < length)
  have hlast := rainbow.getElem?_colors (by omega : length - 1 < length)
  have hturn : (rainbow.hue 0 length).value - (rainbow.hue (length - 1) length).value =
      (-1 : Int) := by
    rw [rainbow.value_hue_zero hlength,
      rainbow.value_hue_last h hlength hunits (Nat.le_refl _) (by omega)]
    norm_num
  rw [← Color.ofHsb_eq_of_sub_eq_intCast (rainbow.inUnit_hue (by omega) hlength).isFinite
    (rainbow.inUnit_hue (by omega) hlength).isFinite hturn] at hlast
  rw [List.head?_eq_getElem?, List.getLast?_eq_getElem?, rainbow.length_colors]
  exact ⟨_, hfirst, hlast⟩

end Rainbow

/-- Colors are periodic in the hue.  Hues that differ by whole turns have the
same color, and so have a hue and what is left of it without whole turns, even
where this is rounded to a whole turn.  Hence the first and the last color of a
rainbow that does not loop are the same. -/
theorem Color.ofHsb_periodic :
    (∀ (hue hue' saturation brightness : Binary32) (turns : Int), hue.isFinite = true →
        hue'.isFinite = true → hue.value - hue'.value = turns →
        Color.ofHsb hue saturation brightness = Color.ofHsb hue' saturation brightness) ∧
      (∀ hue saturation brightness : Binary32, hue.isFinite = true →
        Color.ofHsb hue saturation brightness = Color.ofHsb hue.cycle saturation brightness) ∧
      ∀ (rainbow : Rainbow) (length : Nat), rainbow.looping = false → 2 ≤ length →
        length < 2 ^ 64 →
        ∃ color, (rainbow.colors length).head? = some color ∧
          (rainbow.colors length).getLast? = some color := by
  refine ⟨?_, ?_, ?_⟩
  · intro hue hue' saturation brightness turns hfinite hfinite' h
    exact ofHsb_eq_of_sub_eq_intCast hfinite hfinite' h saturation brightness
  · intro hue saturation brightness hfinite
    exact (ofHsb_cycle hfinite saturation brightness).symm
  · intro rainbow length h hunits hlength
    exact rainbow.exists_color_at_ends h hunits hlength

/-- A quarter of a turn in two spellings, a hue whose rest is rounded to one,
and a rainbow of five units. -/
theorem Color.ofHsb_periodic_quarter :
    ((ofBits 0x3FA00000).value - (ofBits 0xBF400000).value = (2 : Int) ∧
        ofHsb (ofBits 0x3FA00000) one one = ⟨128, 255, 0⟩ ∧
        ofHsb (ofBits 0x3FA00000) one one = ofHsb (ofBits 0xBF400000) one one) ∧
      ((ofBits 0x80000001).cycle = one ∧
        ofHsb (ofBits 0x80000001) one one = ofHsb (ofBits 0x80000001).cycle one one) ∧
      ((Rainbow.held 0 one one false).looping = false ∧ 2 ≤ 5 ∧ 5 < 2 ^ 64 ∧
        ∃ color, ((Rainbow.held 0 one one false).colors 5).head? = some color ∧
          ((Rainbow.held 0 one one false).colors 5).getLast? = some color) := by
  obtain ⟨hturns, hrest, hrainbow⟩ := ofHsb_periodic
  have hdifference : (ofBits 0x3FA00000).value - (ofBits 0xBF400000).value = (2 : Int) := by
    decide +kernel
  exact ⟨⟨hdifference, by decide +kernel, hturns _ _ _ _ _ (by decide) (by decide) hdifference⟩,
    ⟨by decide +kernel, hrest _ _ _ (by decide)⟩,
    ⟨rfl, by decide, by decide, hrainbow _ 5 rfl (by decide) (by decide)⟩⟩

end ColorMarkup
