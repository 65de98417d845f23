/-!
# ColorMarkup.Proofs.Text.Ascii

The classes of ASCII characters as bounds of their code points, in the form in
which arithmetic can use them.
-/

namespace ColorMarkup.Text

variable {c : Char}

theorem isDigit_iff : c.isDigit = true ↔ 48 ≤ c.toNat ∧ c.toNat ≤ 57 := by
  delta Char.isDigit
  simp [UInt32.le_iff_toNat_le, ← Char.toNat_val]

theorem isUpper_iff : c.isUpper = true ↔ 65 ≤ c.toNat ∧ c.toNat ≤ 90 := by
  delta Char.isUpper
  simp [UInt32.le_iff_toNat_le, ← Char.toNat_val]

theorem isLower_iff : c.isLower = true ↔ 97 ≤ c.toNat ∧ c.toNat ≤ 122 := by
  delta Char.isLower
  simp [UInt32.le_iff_toNat_le, ← Char.toNat_val]

theorem isAlphanum_iff :
    c.isAlphanum = true ↔ c.isUpper = true ∨ c.isLower = true ∨ c.isDigit = true := by
  delta Char.isAlphanum Char.isAlpha
  simp [or_assoc]

/-- A hexadecimal digit is a digit or one of the first six letters. -/
theorem isHexDigit_iff :
    c.isHexDigit = true ↔
      c.isDigit = true ∨ (97 ≤ c.toNat ∧ c.toNat ≤ 102) ∨ (65 ≤ c.toNat ∧ c.toNat ≤ 70) := by
  delta Char.isHexDigit
  simp [UInt32.le_iff_toNat_le, ← Char.toNat_val, or_assoc]

/-- Letters and digits are ASCII characters. -/
theorem lt_of_isAlphanum (h : c.isAlphanum = true) : c.toNat < 128 := by
  rw [isAlphanum_iff, isUpper_iff, isLower_iff, isDigit_iff] at h
  omega

end ColorMarkup.Text

namespace ColorMarkup

theorem isAlphanum_of_isDigit {c : Char} (h : c.isDigit = true) : c.isAlphanum = true :=
  Text.isAlphanum_iff.2 (.inr (.inr h))

theorem isAlphanum_of_isHexDigit {c : Char} (h : c.isHexDigit = true) : c.isAlphanum = true := by
  rw [Text.isHexDigit_iff, Text.isDigit_iff] at h
  rw [Text.isAlphanum_iff, Text.isUpper_iff, Text.isLower_iff, Text.isDigit_iff]
  omega

end ColorMarkup
