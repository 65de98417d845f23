import ColorMarkup.Proofs.Binary32.Error
import ColorMarkup.Proofs.Effect.Gradient

/-!
# ColorMarkup.Proofs.Effect.GradientStops

Gradients hit their stops exactly.

1. A position that lies within a 512th of a stop, on either side, gives the
   color of that stop (`gradientSegment_atStop`): the fraction is so close to
   one end of its segment that the channels round to that end.
2. Counting the steps, dividing and multiplying with the number of segments
   leaves a position within eight parts in `2 ^ 24` of the stop it should be
   at (`within_position`).  Up to 4096 segments, this is at most a 512th.

`gradientColors_stops` puts these together, with the first and the last unit,
whose positions are exact.
-/

namespace ColorMarkup

open Binary32

/-! ## Positions close to a stop -/

/-- A place is so close to a stop that it has the color of this stop: close to
the start of the segment behind it or to the end of the segment before it. -/
def AtStop (place : Nat × Binary32) (stop : Nat) : Prop :=
  (place.1 = stop ∧ (clampUnit (zero false) place.2).value ≤ 1 / 512) ∨
    (place.1 + 1 = stop ∧ 511 / 512 ≤ (clampUnit (zero false) place.2).value)

theorem rounded_div_512 {parts : Nat} (h : parts ≤ 512) :
    rounded (parts / 512 : Rat) = parts / 512 := by
  have hexact := rounded_div_two_pow (by omega : parts ≤ 2 ^ 24) (by omega : 9 ≤ 149)
  norm_num at hexact
  exact hexact

variable {segments stop : Nat} {position : Binary32}

section

variable (hfinite : position.isFinite = true) (hsegments : segments ≤ 4096)
include hfinite hsegments

/-- Among few segments none is rounded to another. -/
theorem gradientSegment_fst_of_le (hnonneg : 0 ≤ position.value) (hle : position.value ≤ segments) :
    (gradientSegment position segments).1 = min ⌊position.value⌋.toNat (segments - 1) := by
  have hfloor : ⌊position.value⌋ ≤ segments := by
    exact_mod_cast (Int.floor_le position.value).trans hle
  have hfloorNonneg : 0 ≤ ⌊position.value⌋ := Int.floor_nonneg.2 hnonneg
  rw [gradientSegment_fst hfinite hnonneg, rounded_intCast (by omega), Int.floor_intCast]

/-- The fraction is what the position exceeds the segment by, rounded. -/
theorem value_gradientSegment_snd_of_le :
    (clampUnit (zero false) (gradientSegment position segments).2).value =
      min 1 (max 0 (rounded (position.value - (gradientSegment position segments).1))) := by
  have hsegment := gradientSegment_fst_le position segments
  rw [value_gradientSegment_snd hfinite (isFinite_ofNat_of_lt (by omega)),
    rounded_natCast (by omega)]

theorem atStop_of_segment (h : (gradientSegment position segments).1 = stop)
    (hnear : position.value - stop ≤ 1 / 512) :
    AtStop (gradientSegment position segments) stop := by
  have hrounded := rounded_mono hnear
  have hexact := rounded_div_512 (by omega : 1 ≤ 512)
  rw [Nat.cast_one] at hexact
  refine .inl ⟨h, ?_⟩
  rw [value_gradientSegment_snd_of_le hfinite hsegments, h]
  exact (min_le_right _ _).trans (max_le (by norm_num) (hrounded.trans_eq hexact))

theorem atStop_of_segment_succ (h : (gradientSegment position segments).1 + 1 = stop)
    (hnear : stop - position.value ≤ 1 / 512) :
    AtStop (gradientSegment position segments) stop := by
  have hsegment : ((gradientSegment position segments).1 : Rat) = stop - 1 :=
    eq_sub_of_add_eq (by exact_mod_cast h)
  have hrounded := rounded_mono
    (by linarith : (511 / 512 : Rat) ≤ position.value - (gradientSegment position segments).1)
  have hexact := rounded_div_512 (by omega : 511 ≤ 512)
  rw [Nat.cast_ofNat] at hexact
  refine .inr ⟨h, ?_⟩
  rw [value_gradientSegment_snd_of_le hfinite hsegments]
  exact le_min (by norm_num) (le_max_of_le_right (hexact.symm.trans_le hrounded))

/-- A position within a 512th of a stop has the color of this stop. -/
theorem gradientSegment_atStop (hpos : 0 < segments) (hnonneg : 0 ≤ position.value)
    (hle : position.value ≤ segments) (hstop : stop ≤ segments)
    (hnear : |position.value - stop| ≤ 1 / 512) :
    AtStop (gradientSegment position segments) stop := by
  obtain ⟨hlow, hhigh⟩ := abs_le.1 hnear
  have hsegment := gradientSegment_fst_of_le hfinite hsegments hnonneg hle
  rcases lt_or_ge position.value stop with hbefore | hbehind
  · -- The position is just before the stop.
    have hstopPos : 0 < stop := by exact_mod_cast hnonneg.trans_lt hbefore
    have hfloor : ⌊position.value⌋ = (stop : Int) - 1 := by
      rw [Int.floor_eq_iff]
      push_cast
      constructor <;> linarith
    exact atStop_of_segment_succ hfinite hsegments (by omega) (by linarith)
  · have hfloor : ⌊position.value⌋ = (stop : Int) := by
      rw [Int.floor_eq_iff, Int.cast_natCast]
      constructor <;> linarith
    rcases Nat.lt_or_eq_of_le hstop with hinner | hlast
    · exact atStop_of_segment hfinite hsegments (by omega) hhigh
    · -- The last stop is the end of the last segment.
      exact atStop_of_segment_succ hfinite hsegments (by omega) (by linarith)

end

/-- The color of a unit whose place is at a stop. -/
theorem getElem?_gradientColors_of_atStop {stops : List Color} {index length : Nat}
    {looping : Bool} (hstops : 2 ≤ stops.length) (hindex : index < length)
    (h : AtStop (gradientPlace index length (stops.length - 1) looping) stop) :
    (gradientColors length stops looping)[index]? = stops[stop]? := by
  obtain ⟨first, last, hfirst, hlast⟩ := exists_gradientStops hstops index length looping
  rw [getElem?_gradientColors hstops hindex hfirst hlast]
  rcases h with ⟨hsegment, hfraction⟩ | ⟨hsegment, hfraction⟩
  · rw [Color.blend_eq_start _ _ hfraction, ← hfirst, hsegment]
  · rw [Color.blend_eq_stop _ _ hfraction, ← hlast, hsegment]

/-! ## Positions of units -/

/-- A unit is at a stop if its share of the segments is within a 512th of it. -/
theorem gradientPlace_atStop {index length : Nat} {looping : Bool} (hindex : index < length)
    (hlength : length < 2 ^ 64) (hpos : 0 < segments) (hsegments : segments ≤ 4096)
    (hstop : stop ≤ segments)
    (hnear : |rounded (shareValue index (gradientSteps length looping) * segments) - stop| ≤
      1 / 512) :
    AtStop (gradientPlace index length segments looping) stop := by
  have hshare := inUnit_gradientShare hindex hlength looping
  have hfinite : (ofNat segments).isFinite = true := isFinite_ofNat_of_lt (by omega)
  have hcount : rounded segments = segments := rounded_natCast (by omega)
  have hle := value_position_le hshare hfinite
  have hvalue := value_position hshare hfinite
  rw [hcount] at hle hvalue
  rw [value_gradientShare hindex hlength] at hvalue
  exact gradientSegment_atStop (isFinite_position hshare hfinite) hsegments hpos
    (value_position_nonneg hshare hfinite) hle hstop (hvalue ▸ hnear)

/-- Counting some units is one rounding. -/
theorem within_count {count : Nat} (hpos : 0 < count) (hcount : count < 2 ^ 64) :
    Within 1 count (rounded count) := by
  have hone : (1 : Rat) ≤ count := by exact_mod_cast hpos
  have hmany : (count : Rat) ≤ 2 ^ 64 := by exact_mod_cast hcount.le
  exact within_rounded (le_trans (by norm_num) hone) (hmany.trans (by norm_num))

/-- A unit that should be at a stop is within eight parts of it: one for each
count, doubled by the division, and two for each of the two roundings behind. -/
theorem within_position {step : Nat} (hstep : 0 < step) (hstop : 0 < stop) (hle : stop ≤ segments)
    (hsegments : segments ≤ 4096) (hsteps : step * segments < 2 ^ 64) :
    Within 8 stop (rounded (shareValue (stop * step) (step * segments) * segments)) := by
  have hpos : 0 < segments := hstop.trans_le hle
  have hstopOne : (1 : Rat) ≤ stop := by exact_mod_cast hstop
  have hsegmentsOne : (1 : Rat) ≤ segments := by exact_mod_cast hpos
  have hleCast : (stop : Rat) ≤ segments := by exact_mod_cast hle
  have hfew : (segments : Rat) ≤ 4096 := by exact_mod_cast hsegments
  have hsteps' : stop * step < 2 ^ 64 :=
    lt_of_le_of_lt (Nat.mul_comm stop step ▸ Nat.mul_le_mul_left step hle) hsteps
  have hquotient := (within_count (Nat.mul_pos hstop hstep) hsteps').div
    (within_count (Nat.mul_pos hstep hpos) hsteps) (by omega)
    (by exact_mod_cast Nat.mul_pos hstep hpos)
  have hexact : ((stop * step : Nat) : Rat) / (step * segments : Nat) = stop / segments := by
    have hne : (step : Rat) ≠ 0 := by exact_mod_cast hstep.ne'
    rw [Nat.cast_mul, Nat.cast_mul, mul_comm (step : Rat), mul_div_mul_right _ _ hne]
  rw [hexact] at hquotient
  have hlow : (1 / 4096 : Rat) ≤ stop / segments := by
    rw [div_le_div_iff₀ (by norm_num) (by linarith)]
    linarith
  have hhigh : (stop : Rat) / segments ≤ 1 := div_le_one_of_le₀ hleCast (by linarith)
  have hshare := hquotient.rounded (by omega) (le_trans (by norm_num) hlow)
    (hhigh.trans (by norm_num))
  have hproduct := hshare.mul_right (by linarith : (0 : Rat) ≤ segments)
  rw [div_mul_cancel₀ _ (by linarith : (segments : Rat) ≠ 0)] at hproduct
  exact hproduct.rounded (by omega) (le_trans (by norm_num) hstopOne)
    ((hleCast.trans hfew).trans (by norm_num))

/-- Among up to 4096 segments, eight parts of a stop are no more than a 512th. -/
theorem abs_position_sub_le {step : Nat} (hstep : 0 < step) (hle : stop ≤ segments)
    (hsegments : segments ≤ 4096) (hsteps : step * segments < 2 ^ 64) :
    |rounded (shareValue (stop * step) (step * segments) * segments) - stop| ≤ 1 / 512 := by
  rcases Nat.eq_zero_or_pos stop with rfl | hstop
  · rw [Nat.zero_mul, shareValue_zero, zero_mul, rounded_zero, Nat.cast_zero, sub_zero, abs_zero]
    norm_num
  · have hwithin := (within_position hstep hstop hle hsegments hsteps).2
    have hfew : (stop : Rat) ≤ 4096 := by exact_mod_cast hle.trans hsegments
    rw [Nat.cast_ofNat] at hwithin
    linarith

/-! ## Colors -/

/-- A gradient that does not loop starts with its first stop and ends with its
last one.  If its segments have the same number of steps each, all stops are
hit. -/
theorem gradientColors_stops {stops : List Color} {length : Nat} (hstops : 2 ≤ stops.length)
    (hcount : stops.length ≤ 4097) (hunits : 2 ≤ length) (hlength : length < 2 ^ 64) :
    (gradientColors length stops false).head? = stops.head? ∧
      (gradientColors length stops false).getLast? = stops.getLast? ∧
      ∀ step, length - 1 = step * (stops.length - 1) → ∀ stop ≤ stops.length - 1,
        (gradientColors length stops false)[stop * step]? = stops[stop]? := by
  have hcolors : (gradientColors length stops false).length = length :=
    length_gradientColors length (List.ne_nil_of_length_pos (by omega)) false
  have hhit {index stop : Nat} (hindex : index < length) (hstop : stop ≤ stops.length - 1)
      (hnear : |rounded (shareValue index (length - 1) * (stops.length - 1 : Nat)) - stop| ≤
        1 / 512) : (gradientColors length stops false)[index]? = stops[stop]? :=
    getElem?_gradientColors_of_atStop hstops hindex
      (gradientPlace_atStop hindex hlength (by omega) (by omega) hstop hnear)
  refine ⟨?_, ?_, ?_⟩
  · rw [List.head?_eq_getElem?, List.head?_eq_getElem?]
    refine hhit (by omega) (Nat.zero_le _) ?_
    rw [shareValue_zero, zero_mul, rounded_zero, Nat.cast_zero, sub_zero, abs_zero]
    norm_num
  · rw [List.getLast?_eq_getElem?, List.getLast?_eq_getElem?, hcolors]
    refine hhit (by omega) (Nat.le_refl _) ?_
    rw [shareValue_self (by omega), one_mul, rounded_natCast (by omega), sub_self, abs_zero]
    norm_num
  · intro step hsteps stop hstop
    have hstep : 0 < step := Nat.pos_of_ne_zero fun hzero => by
      rw [hzero, Nat.zero_mul] at hsteps
      omega
    have hindex : stop * step ≤ length - 1 := by
      rw [hsteps, Nat.mul_comm]
      exact Nat.mul_le_mul_left step hstop
    refine hhit (by omega) hstop ?_
    rw [hsteps]
    exact abs_position_sub_le hstep hstop (by omega) (by omega)

/-- Five units hit three stops, two steps apart. -/
theorem gradientColors_stops_five :
    gradientColors 5 [⟨255, 0, 0⟩, ⟨0, 255, 0⟩, ⟨0, 0, 255⟩] false =
        [⟨255, 0, 0⟩, ⟨128, 128, 0⟩, ⟨0, 255, 0⟩, ⟨0, 128, 128⟩, ⟨0, 0, 255⟩] ∧
      5 - 1 = 2 * (3 - 1) ∧ ∀ stop ≤ 3 - 1,
        (gradientColors 5 [⟨255, 0, 0⟩, ⟨0, 255, 0⟩, ⟨0, 0, 255⟩] false)[stop * 2]? =
          [(⟨255, 0, 0⟩ : Color), ⟨0, 255, 0⟩, ⟨0, 0, 255⟩][stop]? := by
  have hstops := @gradientColors_stops [⟨255, 0, 0⟩, ⟨0, 255, 0⟩, ⟨0, 0, 255⟩] 5
    (by decide) (by decide) (by decide) (by decide)
  exact ⟨by decide +kernel, by decide, hstops.2.2 2 rfl⟩

end ColorMarkup
