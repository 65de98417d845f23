import ColorMarkup.Color.Hex
import ColorMarkup.Proofs.Text.Ascii

/-!
# ColorMarkup.Proofs.Color.Hex

Which texts are colors.

1. Six hexadecimal digits spell a color, two for each channel, and so do three,
   each of which stands for itself doubled (`Color.IsSpelled`).
2. A color is read exactly from these texts, with or without a `#` in front
   (`Color.ofHex_eq_ok_iff`).
3. The six digits that are written for a color spell it
   (`Color.isSpelled_hexDigits`).
-/

namespace ColorMarkup

/-! ## Digits -/

theorem hexValue_lt {c : Char} (h : c.isHexDigit = true) : hexValue c < 16 := by
  rw [Text.isHexDigit_iff, Text.isDigit_iff] at h
  unfold hexValue
  have hzero : '0'.toNat = 48 := rfl
  have hupper : 'A'.toNat = 65 := rfl
  have hlower : 'a'.toNat = 97 := rfl
  split
  · rename_i hdigit
    rw [Text.isDigit_iff] at hdigit
    omega
  · rename_i hdigit
    rw [Text.isDigit_iff] at hdigit
    split
    · rename_i hletter
      rw [Text.isUpper_iff] at hletter
      omega
    · rename_i hletter
      rw [Text.isUpper_iff] at hletter
      omega

/-- A hash is no digit. -/
theorem dropHash_of_digits {digits : List Char} (h : ∀ c ∈ digits, c.isHexDigit = true) :
    Color.dropHash digits = digits := by
  unfold Color.dropHash
  split
  · have hhash := h '#' List.mem_cons_self
    contradiction
  · rfl

/-! ## Spellings -/

/-- Two hexadecimal digits have the value of a channel. -/
structure IsChannel (high low : Char) (channel : UInt8) : Prop where
  isHexDigit_high : high.isHexDigit = true
  isHexDigit_low : low.isHexDigit = true
  value : channel.toNat = 16 * hexValue high + hexValue low

theorem IsChannel.eq_channelOf {high low : Char} {channel : UInt8}
    (h : IsChannel high low channel) : channel = Color.channelOf high low := by
  have hhigh := hexValue_lt h.isHexDigit_high
  have hlow := hexValue_lt h.isHexDigit_low
  rw [← UInt8.toNat_inj, h.value, Color.channelOf, UInt8.toNat_ofNat']
  omega

theorem isChannel_channelOf {high low : Char} (hhigh : high.isHexDigit = true)
    (hlow : low.isHexDigit = true) : IsChannel high low (Color.channelOf high low) := by
  have hhighLt := hexValue_lt hhigh
  have hlowLt := hexValue_lt hlow
  refine ⟨hhigh, hlow, ?_⟩
  rw [Color.channelOf, UInt8.toNat_ofNat']
  omega

namespace Color

/-- Digits spell a color: two for each channel, or one that stands for itself
doubled. -/
inductive IsSpelled : Color → List Char → Prop
  | six {red green blue : UInt8} {r r' g g' b b' : Char} (hred : IsChannel r r' red)
      (hgreen : IsChannel g g' green) (hblue : IsChannel b b' blue) :
      IsSpelled ⟨red, green, blue⟩ [r, r', g, g', b, b']
  | three {red green blue : UInt8} {r g b : Char} (hred : IsChannel r r red)
      (hgreen : IsChannel g g green) (hblue : IsChannel b b blue) :
      IsSpelled ⟨red, green, blue⟩ [r, g, b]

/-- As many digits as a color has. -/
def HasDigits (digits : List Char) : Prop :=
  digits.length = 3 ∨ digits.length = 6

theorem IsSpelled.isHexDigit {color : Color} {digits : List Char} (h : color.IsSpelled digits) :
    ∀ c ∈ digits, c.isHexDigit = true := by
  cases h with
  | six hred hgreen hblue =>
      simp [hred.isHexDigit_high, hred.isHexDigit_low, hgreen.isHexDigit_high,
        hgreen.isHexDigit_low, hblue.isHexDigit_high, hblue.isHexDigit_low]
  | three hred hgreen hblue =>
      simp [hred.isHexDigit_high, hgreen.isHexDigit_high, hblue.isHexDigit_high]

theorem IsSpelled.hasDigits {color : Color} {digits : List Char} (h : color.IsSpelled digits) :
    HasDigits digits := by
  cases h with
  | six => exact .inr rfl
  | three => exact .inl rfl

/-! ## Reading -/

/-- Digits are read as the color that they spell. -/
theorem ofHex_of_isSpelled {color : Color} {input : List Char}
    (h : color.IsSpelled (dropHash input)) : ofHex input = .ok color := by
  have hfind : ((dropHash input).take 6).find? (fun c => !c.isHexDigit) = none := by
    rw [List.find?_eq_none]
    intro c hc
    simp [h.isHexDigit c (List.mem_of_mem_take hc)]
  unfold ofHex
  simp only [hfind]
  generalize dropHash input = digits at h
  cases h with
  | six hred hgreen hblue | three hred hgreen hblue =>
      rw [hred.eq_channelOf, hgreen.eq_channelOf, hblue.eq_channelOf]

/-- The same without a `#`. -/
theorem IsSpelled.ofHex_eq {color : Color} {digits : List Char} (h : color.IsSpelled digits) :
    ofHex digits = .ok color := by
  refine ofHex_of_isSpelled ?_
  rwa [dropHash_of_digits h.isHexDigit]

/-- What is read as a color is spelled by three or six digits. -/
theorem isSpelled_of_ofHex {color : Color} {input : List Char} (h : ofHex input = .ok color) :
    color.IsSpelled (dropHash input) := by
  unfold ofHex at h
  dsimp only at h
  split at h
  · cases h
  · rename_i hfind
    rw [List.find?_eq_none] at hfind
    split at h
    · rename_i r g b heq
      cases h
      rw [heq] at hfind ⊢
      have hr : r.isHexDigit = true := by simpa using hfind r (by simp)
      have hg : g.isHexDigit = true := by simpa using hfind g (by simp)
      have hb : b.isHexDigit = true := by simpa using hfind b (by simp)
      exact .three (isChannel_channelOf hr hr) (isChannel_channelOf hg hg)
        (isChannel_channelOf hb hb)
    · rename_i r r' g g' b b' heq
      cases h
      rw [heq] at hfind ⊢
      have hdigit (c : Char) (hc : c ∈ [r, r', g, g', b, b']) : c.isHexDigit = true := by
        simpa using hfind c hc
      exact .six (isChannel_channelOf (hdigit r (by simp)) (hdigit r' (by simp)))
        (isChannel_channelOf (hdigit g (by simp)) (hdigit g' (by simp)))
        (isChannel_channelOf (hdigit b (by simp)) (hdigit b' (by simp)))
    · cases h

/-- A color is read exactly from the digits that spell it. -/
theorem ofHex_eq_ok_iff {color : Color} {input : List Char} :
    ofHex input = .ok color ↔ color.IsSpelled (dropHash input) :=
  ⟨isSpelled_of_ofHex, ofHex_of_isSpelled⟩

/-! ## Writing -/

theorem isChannel_channelDigits (channel : UInt8) :
    IsChannel (hexDigit (channel.toNat / 16)) (hexDigit (channel.toNat % 16)) channel := by
  have hlt := channel.toNat_lt
  have hdigit (value : Nat) (hvalue : value < 16) :
      (hexDigit value).isHexDigit = true ∧ hexValue (hexDigit value) = value :=
    ⟨isHexDigit_hexDigit ⟨value, hvalue⟩, hexValue_hexDigit ⟨value, hvalue⟩⟩
  obtain ⟨hhigh, hhighValue⟩ := hdigit (channel.toNat / 16) (by omega)
  obtain ⟨hlow, hlowValue⟩ := hdigit (channel.toNat % 16) (by omega)
  exact ⟨hhigh, hlow, by omega⟩

/-- The digits that are written spell the color. -/
theorem isSpelled_hexDigits (color : Color) : color.IsSpelled color.hexDigits :=
  .six (isChannel_channelDigits color.red) (isChannel_channelDigits color.green)
    (isChannel_channelDigits color.blue)

end Color

end ColorMarkup
