import ColorMarkup.Effect.Gradient
import ColorMarkup.Proofs.Color.Blend
import ColorMarkup.Proofs.Effect.Share

/-!
# ColorMarkup.Proofs.Effect.Gradient

Gradients move monotonically through their segments.

1. A later unit has no smaller share of the way (`value_gradientShare_mono`),
   hence no smaller position, a segment that is no earlier and, in the same
   segment, a fraction that is no smaller (`gradientPlace_noLater`).  Every
   rounding on the way keeps this order.
2. The color of a unit is a blend of the two stops of its segment, so it lies
   between them and comes closer to the second with every unit.

`gradientColors_sweeps` puts these together.
-/

namespace ColorMarkup

open Binary32

/-! ## Shares of the way -/

/-- The steps that the whole way of a gradient has. -/
def gradientSteps (length : Nat) (looping : Bool) : Nat :=
  if looping then length else length - 1

/-- A unit lies within the steps. -/
theorem le_gradientSteps {index length : Nat} (h : index < length) (looping : Bool) :
    index ≤ gradientSteps length looping := by
  unfold gradientSteps
  split <;> omega

theorem gradientSteps_le (length : Nat) (looping : Bool) :
    gradientSteps length looping ≤ length := by
  unfold gradientSteps
  split <;> omega

/-- The quotient of two counts of steps, before it is held to one. -/
def wholeShare (index steps : Nat) : Binary32 :=
  if steps = 0 then zero false else ofNat index / ofNat steps

theorem gradientShare_eq (index length : Nat) (looping : Bool) :
    gradientShare index length looping =
      if looping || (wholeShare index (gradientSteps length looping)).lt one then
        wholeShare index (gradientSteps length looping)
      else one := rfl

theorem value_wholeShare {index steps : Nat} (h : index ≤ steps) (hsteps : steps < 2 ^ 64) :
    (wholeShare index steps).value = shareValue index steps := by
  unfold wholeShare
  by_cases hzero : steps = 0
  · have hindex : index = 0 := by omega
    rw [if_pos hzero, hzero, hindex, shareValue]
    simp
  · rw [if_neg hzero, value_share (by omega) (Nat.pos_of_ne_zero hzero) hsteps]

variable {index index' length segments : Nat}

/-- The share of a unit never exceeds one, so holding it there does not change
it. -/
theorem value_gradientShare (h : index < length) (hlength : length < 2 ^ 64) (looping : Bool) :
    (gradientShare index length looping).value =
      shareValue index (gradientSteps length looping) := by
  have hle := le_gradientSteps h looping
  have hsteps := gradientSteps_le length looping
  have hshare := value_wholeShare hle (by omega)
  have hone := shareValue_le_one hle
  have hunit : (wholeShare index (gradientSteps length looping)).InUnit :=
    .of_value (hshare ▸ shareValue_nonneg _ _) (hshare ▸ hone)
  rw [gradientShare_eq]
  split
  · exact hshare
  · rename_i hheld
    rw [Bool.or_eq_true, not_or, lt_iff_value_lt (isNaN_of_isFinite hunit.isFinite) rfl, value_one,
      hshare] at hheld
    rw [value_one]
    exact le_antisymm (not_lt.1 hheld.2) hone

theorem inUnit_gradientShare (h : index < length) (hlength : length < 2 ^ 64) (looping : Bool) :
    (gradientShare index length looping).InUnit := by
  have hvalue := value_gradientShare h hlength looping
  refine .of_value ?_ ?_
  · rw [hvalue]
    exact shareValue_nonneg _ _
  · rw [hvalue]
    exact shareValue_le_one (le_gradientSteps h looping)

/-- A later unit has no smaller share. -/
theorem value_gradientShare_mono (h : index ≤ index') (hindex : index' < length)
    (hlength : length < 2 ^ 64) (looping : Bool) :
    (gradientShare index length looping).value ≤ (gradientShare index' length looping).value := by
  rw [value_gradientShare (by omega) hlength, value_gradientShare hindex hlength]
  exact shareValue_mono h _

/-! ## Places -/

/-- The segment of a unit, and how far into the segment it lies. -/
def gradientPlace (index length segments : Nat) (looping : Bool) : Nat × Binary32 :=
  gradientSegment (gradientShare index length looping * ofNat segments) segments

/-- A place is no later than another: its segment is earlier, or it is the same
and the fraction that is held is no greater. -/
structure NoLater (place place' : Nat × Binary32) : Prop where
  segment : place.1 ≤ place'.1
  fraction : place.1 = place'.1 →
    (clampUnit (zero false) place.2).value ≤ (clampUnit (zero false) place'.2).value

theorem NoLater.refl (place : Nat × Binary32) : NoLater place place :=
  ⟨Nat.le_refl _, fun _ => le_rfl⟩

theorem isFinite_ofNat_of_le {n : Nat} (h : n ≤ segments)
    (hsegments : (ofNat segments).isFinite = true) : (ofNat n).isFinite = true := by
  refine isFinite_of_abs_value_le hsegments ?_
  rw [value_ofNat, value_ofNat, abs_of_nonneg (rounded_nonneg (Nat.cast_nonneg _)),
    abs_of_nonneg (rounded_nonneg (Nat.cast_nonneg _))]
  exact rounded_mono (Nat.cast_le.2 h)

/-- The position of a share is the rounded product. -/
theorem value_position {share : Binary32} (hshare : share.InUnit)
    (hsegments : (ofNat segments).isFinite = true) :
    (share * ofNat segments).value = rounded (share.value * rounded segments) :=
  value_mul hshare.isFinite hsegments

theorem value_position_nonneg {share : Binary32} (hshare : share.InUnit)
    (hsegments : (ofNat segments).isFinite = true) : 0 ≤ (share * ofNat segments).value := by
  rw [value_position hshare hsegments]
  exact rounded_nonneg (mul_nonneg hshare.nonneg (rounded_nonneg (Nat.cast_nonneg _)))

/-- No position lies behind the last stop. -/
theorem value_position_le {share : Binary32} (hshare : share.InUnit)
    (hsegments : (ofNat segments).isFinite = true) :
    (share * ofNat segments).value ≤ rounded segments := by
  have hnonneg : (0 : Rat) ≤ rounded segments := rounded_nonneg (Nat.cast_nonneg _)
  have hfixed : rounded (rounded segments) = rounded segments :=
    rounded_value (of_decide_eq_true hsegments).le
  rw [value_position hshare hsegments, ← hfixed]
  exact rounded_mono (hfixed.symm ▸ mul_le_of_le_one_left hnonneg hshare.le_one)

theorem isFinite_position {share : Binary32} (hshare : share.InUnit)
    (hsegments : (ofNat segments).isFinite = true) : (share * ofNat segments).isFinite = true := by
  refine isFinite_of_abs_value_le hsegments ?_
  rw [abs_of_nonneg (value_position_nonneg hshare hsegments)]
  exact (value_position_le hshare hsegments).trans (le_abs_self _)

/-- The segment of a position. -/
theorem gradientSegment_fst {position : Binary32} (hfinite : position.isFinite = true)
    (hnonneg : 0 ≤ position.value) :
    (gradientSegment position segments).1 =
      min ⌊rounded (⌊position.value⌋ : Int)⌋.toNat (segments - 1) := by
  rw [← value_floor hfinite]
  exact saturate_eq (isFinite_floor hfinite hnonneg) _

theorem gradientSegment_fst_le (position : Binary32) (segments : Nat) :
    (gradientSegment position segments).1 ≤ segments - 1 :=
  saturate_le _ _

/-- The fraction of a position is what it exceeds its segment by. -/
theorem value_gradientSegment_snd {position : Binary32} (hfinite : position.isFinite = true)
    (hsegments : (ofNat segments).isFinite = true) :
    (clampUnit (zero false) (gradientSegment position segments).2).value =
      min 1 (max 0 (rounded (position.value - rounded (gradientSegment position segments).1))) := by
  have hsegment := gradientSegment_fst_le position segments
  have hsegmentFinite := isFinite_ofNat_of_le (hsegment.trans (Nat.sub_le _ _)) hsegments
  have hnan := isNaN_sub hfinite hsegmentFinite
  have hvalue := value_clamp_unit hnan
  rw [value_sub hfinite hsegmentFinite] at hvalue
  exact ((inUnit_clamp hnan).value_clampUnit _).trans hvalue

/-- A greater position has no earlier place. -/
theorem noLater_of_value_le {position position' : Binary32} (hfinite : position.isFinite = true)
    (hfinite' : position'.isFinite = true) (hsegments : (ofNat segments).isFinite = true)
    (hnonneg : 0 ≤ position.value) (h : position.value ≤ position'.value) :
    NoLater (gradientSegment position segments) (gradientSegment position' segments) where
  segment := by
    have hfloor : (⌊position.value⌋ : Rat) ≤ (⌊position'.value⌋ : Int) :=
      Int.cast_le.2 (Int.floor_mono h)
    have hrounded := Int.toNat_le_toNat (Int.floor_mono (rounded_mono hfloor))
    rw [gradientSegment_fst hfinite hnonneg, gradientSegment_fst hfinite' (hnonneg.trans h)]
    omega
  fraction hsegment := by
    have hdifference := rounded_mono
      (sub_le_sub_right h (rounded (gradientSegment position segments).1))
    rw [value_gradientSegment_snd hfinite hsegments, value_gradientSegment_snd hfinite' hsegments,
      ← hsegment]
    exact min_le_min le_rfl (max_le_max le_rfl hdifference)

/-! ## More segments than a number can count -/

theorem ofNat_of_not_isFinite {n : Nat} (h : (ofNat n).isFinite = false) :
    ofNat n = infinity false := by
  have hsign : (ofNat n).negative = false := decide_eq_false (not_lt.2 (Nat.cast_nonneg n))
  have hmagnitude : (ofNat n).magnitude = infinityMagnitude :=
    le_antisymm (Nat.min_le_right _ _) (not_lt.1 (of_decide_eq_false h))
  generalize ofNat n = x at hsign hmagnitude
  cases x
  rw [infinity, mk.injEq]
  exact ⟨hsign, hmagnitude⟩

/-- Of an infinite count a share is infinite, unless it is zero. -/
theorem mul_infinity {share : Binary32} (h : share.InUnit) :
    share * infinity false = if share.value = 0 then nan else infinity false := by
  have hproduct : share * infinity false =
      if share.isZero then nan else infinity (share.negative != false) := by
    change mul share (infinity false) = _
    have hzero : (infinity false).isZero = false := rfl
    unfold mul
    simp only [isNaN_of_isFinite h.isFinite, isInfinite_of_isFinite h.isFinite, hzero,
      Bool.false_or, Bool.or_false]
    rfl
  rw [hproduct]
  by_cases hzero : share.value = 0
  · rw [if_pos hzero, if_pos (isZero_iff.2 hzero)]
  · have hsign : share.negative = false := by
      by_contra hnegative
      exact hzero (le_antisymm (value_nonpos (Bool.not_eq_false _ ▸ hnegative)) h.nonneg)
    rw [if_neg hzero, if_neg (mt isZero_iff.1 hzero), hsign]
    rfl

/-- Such positions are all at the first stop or all at the last one. -/
theorem noLater_of_not_isFinite {share share' : Binary32} (hshare : share.InUnit)
    (hshare' : share'.InUnit) (hsegments : (ofNat segments).isFinite = false)
    (h : share.value ≤ share'.value) :
    NoLater (gradientSegment (share * ofNat segments) segments)
      (gradientSegment (share' * ofNat segments) segments) := by
  have hmany : 2 ≤ segments := by
    by_contra hfew
    rw [isFinite_ofNat_of_lt (by omega)] at hsegments
    cases hsegments
  have hfirst : (gradientSegment nan segments).1 = 0 := rfl
  have hlast : (gradientSegment (infinity false) segments).1 = segments - 1 := rfl
  rw [ofNat_of_not_isFinite hsegments, mul_infinity hshare, mul_infinity hshare']
  by_cases hzero : share.value = 0
  · by_cases hzero' : share'.value = 0
    · rw [if_pos hzero, if_pos hzero']
      exact .refl _
    · rw [if_pos hzero, if_neg hzero']
      exact ⟨by omega, by omega⟩
  · have hzero' : share'.value ≠ 0 := fun heq => hzero (le_antisymm (heq ▸ h) hshare.nonneg)
    rw [if_neg hzero, if_neg hzero']
    exact .refl _

/-! ## Colors -/

/-- A later unit has no earlier place. -/
theorem gradientPlace_noLater (h : index ≤ index') (hindex : index' < length)
    (hlength : length < 2 ^ 64) (segments : Nat) (looping : Bool) :
    NoLater (gradientPlace index length segments looping)
      (gradientPlace index' length segments looping) := by
  have hshare := inUnit_gradientShare (by omega : index < length) hlength looping
  have hshare' := inUnit_gradientShare hindex hlength looping
  have hvalue := value_gradientShare_mono h hindex hlength looping
  unfold gradientPlace
  cases hfinite : (ofNat segments).isFinite with
  | true =>
      refine noLater_of_value_le (isFinite_position hshare hfinite)
        (isFinite_position hshare' hfinite) hfinite (value_position_nonneg hshare hfinite) ?_
      rw [value_position hshare hfinite, value_position hshare' hfinite]
      exact rounded_mono (mul_le_mul_of_nonneg_right hvalue (rounded_nonneg (Nat.cast_nonneg _)))
  | false => exact noLater_of_not_isFinite hshare hshare' hfinite hvalue

variable {stops : List Color} {looping : Bool}

theorem gradientColors_eq (h : 2 ≤ stops.length) :
    gradientColors length stops looping =
      (List.range length).map fun index => gradientColor stops.toArray index length looping := by
  match stops with
  | [] | [_] => simp at h
  | _ :: _ :: _ => rfl

theorem gradientPlace_fst_le (index length segments : Nat) (looping : Bool) :
    (gradientPlace index length segments looping).1 ≤ segments - 1 :=
  gradientSegment_fst_le _ _

/-- Every segment is between two stops. -/
theorem exists_gradientStops (h : 2 ≤ stops.length) (index length : Nat) (looping : Bool) :
    ∃ start stop,
      stops[(gradientPlace index length (stops.length - 1) looping).1]? = some start ∧
      stops[(gradientPlace index length (stops.length - 1) looping).1 + 1]? = some stop := by
  have hsegment := gradientPlace_fst_le index length (stops.length - 1) looping
  exact ⟨_, _, List.getElem?_eq_getElem (by omega), List.getElem?_eq_getElem (by omega)⟩

/-- The color of a unit is a blend of the two stops of its segment. -/
theorem getElem?_gradientColors (hstops : 2 ≤ stops.length) (hindex : index < length)
    {start stop : Color}
    (hstart : stops[(gradientPlace index length (stops.length - 1) looping).1]? = some start)
    (hstop : stops[(gradientPlace index length (stops.length - 1) looping).1 + 1]? = some stop) :
    (gradientColors length stops looping)[index]? =
      some (start.blend stop (gradientPlace index length (stops.length - 1) looping).2) := by
  have hcolor : gradientColor stops.toArray index length looping =
      (stops.toArray.getD (gradientPlace index length (stops.length - 1) looping).1 .black).blend
        (stops.toArray.getD ((gradientPlace index length (stops.length - 1) looping).1 + 1) .black)
        (gradientPlace index length (stops.length - 1) looping).2 := rfl
  rw [gradientColors_eq hstops, List.getElem?_map, List.getElem?_range hindex, Option.map_some,
    hcolor, Array.getD_eq_getD_getElem?, Array.getD_eq_getD_getElem?, List.getElem?_toArray,
    List.getElem?_toArray, hstart, hstop, Option.getD_some, Option.getD_some]

/-! ## Sweeps -/

/-- Colors sweep through the segments between stops.  Each color is given a
segment, a later one no earlier segment.  It lies between the two stops of its
segment, and is no farther from the second than the colors before it in the
same segment. -/
structure Sweeps (stops colors : List Color) (segment : Nat → Nat) : Prop where
  monotone : ∀ {index index'}, index ≤ index' → index' < colors.length →
    segment index ≤ segment index'
  between : ∀ {index color}, colors[index]? = some color → ∃ start stop,
    stops[segment index]? = some start ∧ stops[segment index + 1]? = some stop ∧
      Color.Between start stop color
  noFarther : ∀ {index index' earlier later stop}, index < index' →
    segment index = segment index' → colors[index]? = some earlier →
    colors[index']? = some later → stops[segment index + 1]? = some stop →
    Color.NoFarther stop earlier later

/-- A gradient has a color for every unit, and they sweep through the segments
between its stops. -/
theorem gradientColors_sweeps (hstops : 2 ≤ stops.length) (hlength : length < 2 ^ 64)
    (looping : Bool) :
    (gradientColors length stops looping).length = length ∧
      ∃ segment, Sweeps stops (gradientColors length stops looping) segment := by
  have hcount : (gradientColors length stops looping).length = length :=
    length_gradientColors length (List.ne_nil_of_length_pos (by omega)) looping
  have hlt {index color} (h : (gradientColors length stops looping)[index]? = some color) :
      index < length := hcount ▸ (List.getElem?_eq_some_iff.1 h).1
  refine ⟨hcount, fun index => (gradientPlace index length (stops.length - 1) looping).1, ?_⟩
  constructor
  case monotone =>
    intro index index' h hindex
    exact (gradientPlace_noLater h (hcount ▸ hindex) hlength _ _).segment
  case between =>
    intro index color hcolor
    obtain ⟨start, stop, hstart, hstop⟩ := exists_gradientStops hstops index length looping
    rw [getElem?_gradientColors hstops (hlt hcolor) hstart hstop, Option.some.injEq] at hcolor
    exact ⟨start, stop, hstart, hstop, hcolor ▸ Color.between_blend start stop _⟩
  case noFarther =>
    intro index index' earlier later stop h hsegment hearlier hlater hstop
    have hplace := gradientPlace_noLater h.le (hlt hlater) hlength (stops.length - 1) looping
    obtain ⟨start, _, hstart, -⟩ := exists_gradientStops hstops index length looping
    rw [getElem?_gradientColors hstops (hlt hearlier) hstart hstop, Option.some.injEq] at hearlier
    rw [getElem?_gradientColors hstops (hlt hlater) (hsegment ▸ hstart) (hsegment ▸ hstop),
      Option.some.injEq] at hlater
    rw [← hearlier, ← hlater]
    exact Color.noFarther_blend start stop (hplace.fraction hsegment)

/-- Five units of a looping gradient through three stops. -/
theorem gradientColors_sweeps_five :
    gradientColors 5 [⟨255, 0, 0⟩, ⟨0, 255, 0⟩, ⟨0, 0, 255⟩] true =
        [⟨255, 0, 0⟩, ⟨153, 102, 0⟩, ⟨51, 204, 0⟩, ⟨0, 204, 51⟩, ⟨0, 102, 153⟩] ∧
      (gradientColors 5 [⟨255, 0, 0⟩, ⟨0, 255, 0⟩, ⟨0, 0, 255⟩] true).length = 5 ∧
      ∃ segment, Sweeps [⟨255, 0, 0⟩, ⟨0, 255, 0⟩, ⟨0, 0, 255⟩]
        (gradientColors 5 [⟨255, 0, 0⟩, ⟨0, 255, 0⟩, ⟨0, 0, 255⟩] true) segment :=
  ⟨by decide +kernel, gradientColors_sweeps (by decide) (by decide) true⟩

end ColorMarkup
