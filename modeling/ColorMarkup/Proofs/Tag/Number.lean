import ColorMarkup.Proofs.Binary32.Rounding
import ColorMarkup.Proofs.Tag.Part

/-!
# ColorMarkup.Proofs.Tag.Number

What the numbers in a tag stand for.  Digits may be as many as there are, so
both kinds of numbers can be too large, with different outcomes:

1. a speed is the count that its digits stand for, and refused from `2 ^ 32` on
   (`speedOf_eq_ok_iff`, `speedOf_eq_error_iff`);
2. a level is the smaller one of one and its exact value, rounded (`IsLevel`).
   However large, it is never refused, and it lies between zero and one
   (`IsLevel.inUnit`).
-/

namespace ColorMarkup

/-! ## Speeds -/

/-- The count that a speed stands for; none at all stands for zero. -/
def speedValue : Option (List Char) → Nat
  | none => 0
  | some digits => Nat.ofDigitChars 10 digits 0

/-- A speed is read as its count. -/
theorem speedOf_eq_ok_iff {speed : Option (List Char)} {n : UInt32} :
    speedOf speed = .ok n ↔ n.toNat = speedValue speed := by
  cases speed with
  | none => simp [speedOf, speedValue, ← UInt32.toNat_inj, eq_comm]
  | some digits =>
      have hlt := n.toNat_lt
      change (if speedValue (some digits) ≤ speedLimit then _ else _) = _ ↔ _
      unfold speedLimit
      split
      · rw [Except.ok.injEq, ← UInt32.toNat_inj, UInt32.toNat_ofNat', Nat.mod_eq_of_lt, eq_comm]
        · rfl
        · change speedValue (some digits) < 2 ^ 32
          omega
      · simp only [reduceCtorEq, false_iff]
        omega

/-- Only a count that is too large is refused. -/
theorem speedOf_eq_error_iff {speed : Option (List Char)} {error : TagError} :
    speedOf speed = .error error ↔
      ∃ digits, speed = some digits ∧ 2 ^ 32 ≤ Nat.ofDigitChars 10 digits 0 ∧
        error = .invalidNumber digits := by
  cases speed with
  | none => simp [speedOf]
  | some digits =>
      change (if Nat.ofDigitChars 10 digits 0 ≤ speedLimit then _ else _) = _ ↔ _
      unfold speedLimit
      split
      · simp only [reduceCtorEq, Option.some.injEq, false_iff, not_exists, not_and]
        rintro _ rfl hlarge
        omega
      · simp only [Except.error.injEq, Option.some.injEq, exists_eq_left', eq_comm (a := error),
          iff_and_self]
        omega

/-- The digits that are written for a count stand for it. -/
theorem speedValue_toDigits (n : Nat) : speedValue (some (Nat.toDigits 10 n)) = n :=
  Nat.ofDigitChars_ten_toDigits

theorem isRun_toDigits (n : Nat) : IsRun Char.isDigit (Nat.toDigits 10 n) :=
  ⟨Nat.toDigits_ne_nil, fun _ hmem => Nat.isDigit_of_mem_toDigits (by omega) (by omega) hmem⟩

/-! ## Levels -/

/-- The exact value of a fraction. -/
def Fraction.exact (fraction : Fraction) : Rat :=
  let places := fraction.places.getD []
  Nat.ofDigitChars 10 fraction.whole 0 + Nat.ofDigitChars 10 places 0 / 10 ^ places.length

theorem Fraction.exact_nonneg (fraction : Fraction) : 0 ≤ fraction.exact := by
  unfold exact
  positivity

/-- The number for a fraction is its exact value, rounded. -/
theorem Fraction.value_eq (fraction : Fraction) :
    fraction.value = Binary32.ofRat fraction.exact := by
  obtain ⟨whole, places⟩ := fraction
  have hdigits : Nat.ofDigitChars 10 (whole ++ places.getD []) 0 =
      10 ^ (places.getD []).length * Nat.ofDigitChars 10 whole 0 +
        Nat.ofDigitChars 10 (places.getD []) 0 := by
    rw [Nat.ofDigitChars_append, Nat.ofDigitChars_eq_ofDigitChars_zero]
  have hpow : (10 : Rat) ^ (places.getD []).length ≠ 0 := by positivity
  unfold value exact Binary32.ofDecimal
  simp only [hdigits]
  congr 1
  rw [Rat.mkRat_eq_div, Nat.pow_eq]
  push_cast
  rw [add_div, mul_div_cancel_left₀ _ hpow]

/-- The smaller one of two numbers. -/
def Binary32.smaller (x y : Binary32) : Binary32 :=
  if x.lt y then x else y

/-- The number that a level stands for: one if it is not there, and otherwise
its exact value rounded, but no more than one. -/
inductive IsLevel : Option Fraction → Binary32 → Prop
  | absent : IsLevel none .one
  | present {fraction : Fraction} {rounded : Binary32} (h : rounded.IsRounding fraction.exact) :
      IsLevel (some fraction) (.smaller .one rounded)

namespace Binary32

theorem IsRounding.isNaN {x : Binary32} {exact : Rat} (h : x.IsRounding exact) :
    x.isNaN = false := by
  obtain ⟨nearest, -, hmagnitude⟩ := h.magnitude
  simp only [Binary32.isNaN, decide_eq_false_iff_not]
  omega

theorem IsRounding.negative_of_nonneg {x : Binary32} {exact : Rat} (h : x.IsRounding exact)
    (hexact : 0 ≤ exact) : x.negative = false := by
  rw [h.negative, decide_eq_false_iff_not, not_lt]
  exact hexact

/-- Whether one is less, for a number that is not negative. -/
theorem lt_one_iff {x : Binary32} (hnan : x.isNaN = false) (hsign : x.negative = false) :
    one.lt x = true ↔ one.magnitude < x.magnitude := by
  simp [lt, rank, hnan, hsign, show one.isNaN = false from rfl, show one.negative = false from rfl]

/-- A number that is not negative is held by its upper bound alone. -/
theorem clampUnit_of_nonneg {x : Binary32} (hnan : x.isNaN = false) (hsign : x.negative = false) :
    clampUnit .one x = smaller .one x := by
  have hlow : x.lt (zero false) = false := by
    simp [lt, rank, hsign, zero]
  simp [clampUnit, clamp, smaller, hnan, hlow]

end Binary32

/-- A level is held to what it stands for. -/
theorem isLevel_iff {level : Option Fraction} {x : Binary32} :
    IsLevel level x ↔ x = Binary32.clampUnit .one (levelOf level) := by
  cases level with
  | none =>
      constructor
      · rintro ⟨⟩
        rfl
      · rintro rfl
        exact .absent
  | some fraction =>
      have hround : (Binary32.ofRat fraction.exact).IsRounding fraction.exact :=
        Binary32.isRounding_iff.2 rfl
      have hclamp := Binary32.clampUnit_of_nonneg hround.isNaN
        (hround.negative_of_nonneg fraction.exact_nonneg)
      rw [levelOf, fraction.value_eq, hclamp]
      constructor
      · intro h
        cases h with
        | present h => rw [Binary32.isRounding_iff.1 h]
      · rintro rfl
        exact .present hround

/-- A level is a number, and between zero and one. -/
theorem IsLevel.inUnit {level : Option Fraction} {x : Binary32} (h : IsLevel level x) :
    x.InUnit := by
  cases h with
  | absent => exact .of_magnitude_le rfl (Nat.le_refl _)
  | present hround =>
      rename_i fraction rounded
      have hsign := hround.negative_of_nonneg fraction.exact_nonneg
      unfold Binary32.smaller
      split
      · exact .of_magnitude_le rfl (Nat.le_refl _)
      · rename_i hlt
        rw [Binary32.lt_one_iff hround.isNaN hsign] at hlt
        exact .of_magnitude_le hsign (by omega)

end ColorMarkup
