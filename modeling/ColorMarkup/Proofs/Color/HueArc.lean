import ColorMarkup.Proofs.Color.Hsb

/-!
# ColorMarkup.Proofs.Color.HueArc

The arcs of the circle on which a channel is brightest or darkest.

1. A channel does not leave the range from the darkest to the brightest level
   (`Channel.levelAt_mem`).
2. It is brightest throughout two neighbouring sectors and darkest throughout
   the two opposite ones (`Channel.IsBright`, `Channel.IsDark`), and also at the
   angle where such sectors end: there the moving level has not moved yet
   (`Channel.levelAt_of_bright`, `Channel.levelAt_of_dark`).
3. Turns are rounded to angles in order, and a sixth of a turn exactly to the
   border of a sector.  So the same arcs hold for the exact turns of hues
   (`Color.ofHsb_arcs`).
-/

namespace ColorMarkup

open Binary32

/-! ## The range of a channel -/

/-- The more is taken away, the less is left. -/
theorem dimmed_anti {level : Rat} (h : 0 ≤ level) : Antitone (dimmed level) := fun _ _ hpart =>
  rounded_mono (mul_le_mul_of_nonneg_left (rounded_mono (sub_le_sub_left hpart 1)) h)

section

variable {s v : Binary32} (hs : s.InUnit) (hv : v.InUnit)
include hs hv

/-- What is left without a part of the saturation lies between what is left
without all of it and the whole. -/
theorem dimmed_mem {part : Rat} (hnonneg : 0 ≤ part) (hone : part ≤ 1) :
    dimmed v.value s.value ≤ dimmed v.value (rounded (s.value * part)) ∧
      dimmed v.value (rounded (s.value * part)) ≤ v.value := by
  have hlow : 0 ≤ rounded (s.value * part) := rounded_nonneg (mul_nonneg hs.nonneg hnonneg)
  have hhigh := rounded_mono (mul_le_of_le_one_right hs.nonneg hone)
  rw [hs.rounded_value] at hhigh
  have hless := dimmed_anti hv.nonneg hlow
  rw [dimmed_zero hv] at hless
  exact ⟨dimmed_anti hv.nonneg hhigh, hless⟩

/-- No level is below the darkest or above the brightest one. -/
theorem Channel.levelAt_mem (c : Channel) (angle : Rat) :
    dimmed v.value s.value ≤ c.levelAt s.value v.value angle ∧
      c.levelAt s.value v.value angle ≤ v.value := by
  obtain ⟨hnonneg, hone⟩ := rounded_mem_unit (Int.fract_nonneg angle) (Int.fract_lt_one angle).le
  obtain ⟨hnonneg', hone'⟩ := rounded_mem_unit (sub_nonneg.2 hone) (sub_le_self 1 hnonneg)
  have hfalling := dimmed_mem hs hv hnonneg hone
  have hrising := dimmed_mem hs hv hnonneg' hone'
  have hrange := hfalling.1.trans hfalling.2
  exact redLevel_of_forall (P := fun level => dimmed v.value s.value ≤ level ∧ level ≤ v.value)
    _ ⟨hrange, le_rfl⟩ ⟨le_rfl, hrange⟩ hfalling hrising

end

/-! ## Bright and dark sectors -/

/-- Some sectors in a row, all of a kind. -/
def IsArc (first last : Nat) (kind : Nat → Prop) : Prop :=
  (first < last ∧ last ≤ 6) ∧ ∀ sector < last, first ≤ sector → kind sector

instance (first last : Nat) (kind : Nat → Prop) [DecidablePred kind] :
    Decidable (IsArc first last kind) :=
  inferInstanceAs (Decidable (_ ∧ _))

namespace Channel

/-- A channel is in a given phase or in the next one.  The brightest level and
the darkest one last for two phases each. -/
def IsAt (c : Channel) (phase sector : Nat) : Prop :=
  c.phase sector = phase ∨ c.phase sector = (phase + 1) % 6

instance (c : Channel) (phase : Nat) : DecidablePred (c.IsAt phase) := fun _ =>
  inferInstanceAs (Decidable (_ ∨ _))

/-- A channel is brightest throughout a sector. -/
abbrev IsBright (c : Channel) : Nat → Prop := c.IsAt 5

/-- A channel is darkest throughout a sector. -/
abbrev IsDark (c : Channel) : Nat → Prop := c.IsAt 2

theorem phase_succ (c : Channel) (sector : Nat) :
    c.phase (sector + 1) = (c.phase sector + 1) % 6 := by
  have hstart := c.start_le
  unfold phase
  omega

variable {c : Channel} {phase first last : Nat} {angle : Rat} {s v : Binary32}

/-- An angle of an arc lies in one of the arc's sectors or at its end. -/
theorem floor_of_mem_arc (hlow : first ≤ angle) (hhigh : angle ≤ last) :
    (first ≤ ⌊angle⌋.toNat ∧ ⌊angle⌋.toNat < last) ∨
      (⌊angle⌋.toNat = last ∧ Int.fract angle = 0) := by
  rcases lt_or_eq_of_le hhigh with hless | rfl
  · have hfirst : (first : Int) ≤ ⌊angle⌋ := Int.le_floor.2 (by exact_mod_cast hlow)
    have hlast : ⌊angle⌋ < (last : Int) := Int.floor_lt.2 (by exact_mod_cast hless)
    exact .inl (by omega)
  · exact .inr ⟨by rw [Int.floor_natCast, Int.toNat_natCast], Int.fract_natCast last⟩

/-- On an arc a channel has the level that lasts, or else it is at the very
angle where this level ends. -/
theorem phase_floor_of_mem_arc (harc : IsArc first last (c.IsAt phase)) (hlow : first ≤ angle)
    (hhigh : angle ≤ last) :
    c.phase ⌊angle⌋.toNat = phase ∨ c.phase ⌊angle⌋.toNat = (phase + 1) % 6 ∨
      (c.phase ⌊angle⌋.toNat = (phase + 2) % 6 ∧ Int.fract angle = 0) := by
  obtain ⟨⟨hpos, -⟩, hkind⟩ := harc
  rcases floor_of_mem_arc hlow hhigh with ⟨hfirst, hlast⟩ | ⟨hlast, hwhole⟩
  · have hinside := hkind _ hlast hfirst
    unfold IsAt at hinside
    omega
  · have hbefore := hkind (last - 1) (by omega) (by omega)
    have hend := c.phase_succ (last - 1)
    rw [Nat.sub_add_cancel (by omega)] at hend
    rw [hlast, hwhole, eq_self, and_true]
    unfold IsAt at hbefore
    omega

/-- Over bright sectors, the end included, a channel has the brightest level. -/
theorem levelAt_of_bright (hv : v.InUnit) (saturation : Rat)
    (harc : IsArc first last c.IsBright) (hlow : first ≤ angle) (hhigh : angle ≤ last) :
    c.levelAt saturation v.value angle = v.value := by
  unfold levelAt
  rcases phase_floor_of_mem_arc harc hlow hhigh with hphase | hphase | ⟨hphase, hwhole⟩
  · rw [hphase]
    rfl
  · rw [hphase]
    rfl
  · -- The level has not begun to fall.
    rw [hphase, hwhole, rounded_zero, mul_zero, rounded_zero]
    exact dimmed_zero hv

/-- Over dark sectors, the end included, a channel has the darkest level. -/
theorem levelAt_of_dark (hs : s.InUnit) (brightness : Rat) (harc : IsArc first last c.IsDark)
    (hlow : first ≤ angle) (hhigh : angle ≤ last) :
    c.levelAt s.value brightness angle = dimmed brightness s.value := by
  unfold levelAt
  rcases phase_floor_of_mem_arc harc hlow hhigh with hphase | hphase | ⟨hphase, hwhole⟩
  · rw [hphase]
    rfl
  · rw [hphase]
    rfl
  · -- The level has not begun to rise.
    rw [hphase, hwhole, rounded_zero, sub_zero, rounded_one, mul_one, hs.rounded_value]
    rfl

end Channel

/-! ## Colors -/

namespace Color

/-- The level of a channel that is brightest. -/
def brightest (brightness : Binary32) : UInt8 :=
  channelOfLevel (clampUnit (zero false) brightness)

/-- The level of a channel that is darkest. -/
def darkest (saturation brightness : Binary32) : UInt8 :=
  channelOfLevel
    (clampUnit (zero false) brightness * (one - clampUnit (zero false) saturation))

theorem toNat_brightest (brightness : Binary32) :
    ((brightest brightness).toNat : Int) =
      levelNumber (clampUnit (zero false) brightness).value :=
  toNat_channelOfLevel (inUnit_clampUnit brightness)

theorem toNat_darkest (saturation brightness : Binary32) :
    ((darkest saturation brightness).toNat : Int) =
      levelNumber (dimmed (clampUnit (zero false) brightness).value
        (clampUnit (zero false) saturation).value) := by
  have hs := inUnit_clampUnit saturation
  have hv := inUnit_clampUnit brightness
  rw [darkest, toNat_channelOfLevel (hv.mul hs.one_sub), value_dimmed hv hs]

variable {hue : Binary32} {c : Channel} {first last : Nat}

/-- Turns of an arc have their angles there. -/
theorem angleValue_mem_arc {turn : Rat} (hsectors : first < last ∧ last ≤ 6)
    (hlow : (first : Rat) / 6 ≤ turn) (hhigh : turn ≤ (last : Rat) / 6) :
    first ≤ angleValue turn ∧ angleValue turn ≤ last := by
  have hfirst := angleValue_mono hlow
  have hlast := angleValue_mono hhigh
  rw [angleValue_sixth (by omega)] at hfirst hlast
  exact ⟨hfirst, hlast⟩

/-- A channel is brightest on an arc of bright sectors. -/
theorem channel_ofHsb_of_bright (harc : IsArc first last c.IsBright)
    (saturation brightness : Binary32) (hlow : (first : Rat) / 6 ≤ hueTurn hue)
    (hhigh : hueTurn hue ≤ (last : Rat) / 6) :
    (ofHsb hue saturation brightness).channel c = brightest brightness := by
  have hv := inUnit_clampUnit brightness
  obtain ⟨hfirst, hlast⟩ := angleValue_mem_arc harc.1 hlow hhigh
  exact channel_ofHsb_eq hv (Channel.levelAt_of_bright hv _ harc hfirst hlast)

/-- A channel is darkest on an arc of dark sectors. -/
theorem channel_ofHsb_of_dark (harc : IsArc first last c.IsDark)
    (saturation brightness : Binary32) (hlow : (first : Rat) / 6 ≤ hueTurn hue)
    (hhigh : hueTurn hue ≤ (last : Rat) / 6) :
    (ofHsb hue saturation brightness).channel c = darkest saturation brightness := by
  have hs := inUnit_clampUnit saturation
  have hv := inUnit_clampUnit brightness
  obtain ⟨hfirst, hlast⟩ := angleValue_mem_arc harc.1 hlow hhigh
  have hlevel := Channel.levelAt_of_dark hs (clampUnit (zero false) brightness).value harc hfirst
    hlast
  rw [← value_dimmed hv hs] at hlevel
  exact channel_ofHsb_eq (hv.mul hs.one_sub) hlevel

/-- No channel is darker than the darkest level or brighter than the brightest. -/
theorem channel_ofHsb_mem (hue saturation brightness : Binary32) (c : Channel) :
    darkest saturation brightness ≤ (ofHsb hue saturation brightness).channel c ∧
      (ofHsb hue saturation brightness).channel c ≤ brightest brightness := by
  have hlevel := toNat_channel_ofHsb hue saturation brightness c
  have hdarkest := toNat_darkest saturation brightness
  have hbrightest := toNat_brightest brightness
  obtain ⟨hlow, hhigh⟩ := c.levelAt_mem (inUnit_clampUnit saturation) (inUnit_clampUnit brightness)
    (angleValue (hueTurn hue))
  have hlow' := levelNumber_mono hlow
  have hhigh' := levelNumber_mono hhigh
  rw [UInt8.le_iff_toNat_le, UInt8.le_iff_toNat_le]
  omega

/-- All channels lie between the darkest and the brightest level.  Each is
brightest on the third of the circle around its own hue, and darkest on the
opposite third, the ends of these arcs included. -/
theorem ofHsb_arcs (hue saturation brightness : Binary32) :
    (∀ c, darkest saturation brightness ≤ (ofHsb hue saturation brightness).channel c ∧
        (ofHsb hue saturation brightness).channel c ≤ brightest brightness) ∧
      (hueTurn hue ≤ 1 / 6 ∨ 5 / 6 ≤ hueTurn hue →
        (ofHsb hue saturation brightness).red = brightest brightness) ∧
      (1 / 6 ≤ hueTurn hue → hueTurn hue ≤ 1 / 2 →
        (ofHsb hue saturation brightness).green = brightest brightness) ∧
      (1 / 2 ≤ hueTurn hue → hueTurn hue ≤ 5 / 6 →
        (ofHsb hue saturation brightness).blue = brightest brightness) ∧
      (hueTurn hue ≤ 1 / 3 →
        (ofHsb hue saturation brightness).blue = darkest saturation brightness) ∧
      (1 / 3 ≤ hueTurn hue → hueTurn hue ≤ 2 / 3 →
        (ofHsb hue saturation brightness).red = darkest saturation brightness) ∧
      (2 / 3 ≤ hueTurn hue →
        (ofHsb hue saturation brightness).green = darkest saturation brightness) := by
  have hnonneg := hueTurn_nonneg hue
  have hone := hueTurn_lt_one hue
  refine ⟨channel_ofHsb_mem hue saturation brightness, ?_, ?_, ?_, ?_, ?_, ?_⟩
  · rintro (h | h)
    · exact channel_ofHsb_of_bright (by decide : IsArc 0 1 Channel.red.IsBright) saturation
        brightness (by push_cast; linarith) (by push_cast; linarith)
    · exact channel_ofHsb_of_bright (by decide : IsArc 5 6 Channel.red.IsBright) saturation
        brightness (by push_cast; linarith) (by push_cast; linarith)
  · intro h h'
    exact channel_ofHsb_of_bright (by decide : IsArc 1 3 Channel.green.IsBright) saturation
      brightness (by push_cast; linarith) (by push_cast; linarith)
  · intro h h'
    exact channel_ofHsb_of_bright (by decide : IsArc 3 5 Channel.blue.IsBright) saturation
      brightness (by push_cast; linarith) (by push_cast; linarith)
  · intro h
    exact channel_ofHsb_of_dark (by decide : IsArc 0 2 Channel.blue.IsDark) saturation
      brightness (by push_cast; linarith) (by push_cast; linarith)
  · intro h h'
    exact channel_ofHsb_of_dark (by decide : IsArc 2 4 Channel.red.IsDark) saturation
      brightness (by push_cast; linarith) (by push_cast; linarith)
  · intro h
    exact channel_ofHsb_of_dark (by decide : IsArc 4 6 Channel.green.IsDark) saturation
      brightness (by push_cast; linarith) (by push_cast; linarith)

/-- Half a turn, a hue just below five sixths that is rounded to five sixths,
one just below a turn that is rounded to the whole turn, and an infinite one. -/
theorem ofHsb_arcs_rounded :
    (hueTurn (ofDecimal 5 1) = 1 / 2 ∧ ofHsb (ofDecimal 5 1) one one = ⟨0, 255, 255⟩ ∧
        (ofHsb (ofDecimal 5 1) one one).red = darkest one one ∧
        (ofHsb (ofDecimal 5 1) one one).green = brightest one) ∧
      (hueTurn (ofBits 0xBE2AAAAB) = 5 / 6 - 1 / 201326592 ∧
        ofHsb (ofBits 0xBE2AAAAB) one one = ⟨255, 0, 255⟩ ∧
        (ofHsb (ofBits 0xBE2AAAAB) one one).blue = brightest one ∧
        (ofHsb (ofBits 0xBE2AAAAB) one one).green = darkest one one) ∧
      (5 / 6 ≤ hueTurn (ofBits 0x80000001) ∧ ofHsb (ofBits 0x80000001) one one = ⟨255, 0, 0⟩ ∧
        (ofHsb (ofBits 0x80000001) one one).red = brightest one) ∧
      (hueTurn (infinity false) ≤ 1 / 3 ∧ ofHsb (infinity false) one one = ⟨255, 0, 0⟩ ∧
        (ofHsb (infinity false) one one).blue = darkest one one) := by
  obtain ⟨-, -, hgreen, -, -, hred, -⟩ := ofHsb_arcs (ofDecimal 5 1) one one
  obtain ⟨-, -, -, hblue, -, -, hgreen'⟩ := ofHsb_arcs (ofBits 0xBE2AAAAB) one one
  obtain ⟨-, hred', -⟩ := ofHsb_arcs (ofBits 0x80000001) one one
  obtain ⟨-, -, -, -, hblue', -⟩ := ofHsb_arcs (infinity false) one one
  have hhalf : hueTurn (ofDecimal 5 1) = 1 / 2 := by decide +kernel
  have hborder : hueTurn (ofBits 0xBE2AAAAB) = 5 / 6 - 1 / 201326592 := by decide +kernel
  have hwhole : 5 / 6 ≤ hueTurn (ofBits 0x80000001) := by decide +kernel
  have hnone : hueTurn (infinity false) ≤ 1 / 3 := by decide +kernel
  rw [hhalf] at hred hgreen
  rw [hborder] at hblue hgreen'
  exact ⟨⟨hhalf, by decide +kernel, hred (by norm_num) (by norm_num),
      hgreen (by norm_num) (by norm_num)⟩,
    ⟨hborder, by decide +kernel, hblue (by norm_num) (by norm_num), hgreen' (by norm_num)⟩,
    ⟨hwhole, by decide +kernel, hred' (.inr hwhole)⟩, ⟨hnone, by decide +kernel, hblue' hnone⟩⟩

end Color

end ColorMarkup
