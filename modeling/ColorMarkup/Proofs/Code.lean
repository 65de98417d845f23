import ColorMarkup.Code
import Mathlib

/-!
# ColorMarkup.Proofs.Code

What a code character does is told by its lowercase letter:

1. a format is switched on by its own letter, and `r` resets
   (`CodeKind.of?_eq_format_iff`, `CodeKind.of?_eq_reset_iff`);
2. every standard code is an ASCII letter or digit
   (`isAlphanum_of_isStandardCode`).
-/

namespace ColorMarkup

/-! ## Lowercase -/

theorem isAlphanum_toLower (c : Char) : c.toLower.isAlphanum = c.isAlphanum := by
  delta Char.isAlphanum Char.isAlpha Char.isUpper Char.isLower Char.isDigit Char.toLower
  grind

/-! ## Codes -/

theorem Format.ofCode?_eq_some_iff {c : Char} {format : Format} :
    ofCode? c = some format ↔ c.toLower = format.code := by
  constructor
  · intro h
    have hcode := List.find?_some h
    rw [decide_eq_true_eq] at hcode
    exact hcode.symm
  · intro h
    rw [ofCode?, h]
    cases format <;> rfl

/-- A code switches a format on if it is the letter of the format, in either
case. -/
theorem CodeKind.of?_eq_format_iff {c : Char} {format : Format} :
    of? c = some (.format format) ↔ c.toLower = format.code := by
  unfold of?
  dsimp only
  constructor
  · intro h
    split at h
    · cases h
    · split at h
      · cases h
      · obtain ⟨found, hfound, hformat⟩ := Option.map_eq_some_iff.1 h
        cases hformat
        rwa [Format.ofCode?_eq_some_iff, Char.toLower_toLower_eq_toLower] at hfound
  · intro h
    rw [h]
    cases format <;> rfl

/-- A code resets if it is the letter `r`, in either case. -/
theorem CodeKind.of?_eq_reset_iff {c : Char} : of? c = some .reset ↔ c.toLower = 'r' := by
  unfold of?
  dsimp only
  constructor
  · intro h
    split at h
    · cases h
    · split at h
      · assumption
      · obtain ⟨_, -, hformat⟩ := Option.map_eq_some_iff.1 h
        cases hformat
  · intro h
    rw [h]
    rfl

/-- Standard codes are letters and digits. -/
theorem isAlphanum_of_isStandardCode {c : Char} (h : isStandardCode c = true) :
    c.isAlphanum = true := by
  rw [← isAlphanum_toLower]
  unfold isStandardCode CodeKind.of? at h
  dsimp only at h
  split at h
  · delta Char.isAlphanum Char.isAlpha Char.isUpper Char.isLower
    grind [Char.le_def]
  · split at h
    · rename_i heq
      rw [heq]
      rfl
    · rw [Option.isSome_map, Option.isSome_iff_exists] at h
      obtain ⟨format, hformat⟩ := h
      rw [← isAlphanum_toLower, Format.ofCode?_eq_some_iff.1 hformat]
      cases format <;> rfl

end ColorMarkup
