import ColorMarkup.Marker
import ColorMarkup.Proofs.Color.Hex
import ColorMarkup.Proofs.Tag.Part

/-!
# ColorMarkup.Proofs.Color.Written

Colors in writing, and what reading makes of it.

1. The digits of a channel are its numeral in base 16, filled up to two digits,
   and just as well the digits of its two halves of four bits
   (`Color.channelDigits_eq_numeral`, `Color.channelDigits_eq_halves`).
2. What is written for a color is read as that color, also within white space
   (`Color.ofHex_toHex`, `Color.ofTrimmedHex_append`).  Six digits that are read
   as a color are those that are written for it, but for their case
   (`Color.toHex_of_ofHex`).
3. Of codes one after the other, every other character is the marker
   (`Marker.getElem?_codes_even`, `Marker.getElem?_codes_odd`).
-/

namespace ColorMarkup

/-! ## Digits of a channel -/

/-- The digit that is written for the value of a digit is that digit in
uppercase. -/
theorem hexDigit_hexValue {c : Char} (h : c.isHexDigit = true) :
    hexDigit (hexValue c) = c.toUpper := by
  have hascii : ∀ code < 128, (Char.ofNat code).isHexDigit = true →
      hexDigit (hexValue (Char.ofNat code)) = (Char.ofNat code).toUpper := by
    decide
  have hlt : c.toNat < 128 := by
    rw [Text.isHexDigit_iff, Text.isDigit_iff] at h
    omega
  have hc := hascii c.toNat hlt
  rw [Char.ofNat_toNat] at hc
  exact hc h

namespace Color

/-- The digits of a channel are those of its spelling, in uppercase. -/
theorem channelDigits_of_isChannel {high low : Char} {channel : UInt8}
    (h : IsChannel high low channel) : channelDigits channel = [high.toUpper, low.toUpper] := by
  have hlow := hexValue_lt h.isHexDigit_low
  have hvalue := h.value
  have hdiv : channel.toNat / 16 = hexValue high := by omega
  have hmod : channel.toNat % 16 = hexValue low := by omega
  rw [channelDigits, hdiv, hmod, hexDigit_hexValue h.isHexDigit_high,
    hexDigit_hexValue h.isHexDigit_low]

/-- A channel as a numeral in base 16, filled up to two digits. -/
def channelNumeral (channel : UInt8) : List Char :=
  ((Nat.toDigits 16 channel.toNat).leftpad 2 '0').map Char.toUpper

/-- The digit of four bits, from a table. -/
def halfDigit (bits : UInt8) : Char :=
  "0123456789ABCDEF".toList.getD bits.toNat '0'

/-- The digits of the upper and of the lower four bits of a channel. -/
def channelHalves (channel : UInt8) : List Char :=
  [halfDigit (channel >>> 4), halfDigit (channel &&& 0x0F)]

theorem channelDigits_eq_numeral (channel : UInt8) :
    channelDigits channel = channelNumeral channel := by
  have hlt := channel.toNat_lt
  unfold channelDigits channelNumeral hexDigit
  obtain hsmall | hlarge := Nat.lt_or_ge channel.toNat 16
  · rw [Nat.toDigits_of_lt_base hsmall, Nat.div_eq_of_lt hsmall, Nat.mod_eq_of_lt hsmall]
    rfl
  · have hsplit : 16 * (channel.toNat / 16) + channel.toNat % 16 = channel.toNat := by omega
    have hdigits := Nat.toDigits_append_toDigits (show 1 < 16 by decide)
      (show 0 < channel.toNat / 16 by omega) (show channel.toNat % 16 < 16 by omega)
    rw [hsplit, Nat.toDigits_of_lt_base (by omega : channel.toNat / 16 < 16),
      Nat.toDigits_of_lt_base (by omega : channel.toNat % 16 < 16)] at hdigits
    rw [← hdigits]
    rfl

theorem halfDigit_eq {bits : UInt8} (h : bits.toNat < 16) :
    halfDigit bits = hexDigit bits.toNat := by
  have htable : ∀ value < 16, "0123456789ABCDEF".toList.getD value '0' = hexDigit value := by
    decide
  exact htable bits.toNat h

theorem channelDigits_eq_halves (channel : UInt8) :
    channelDigits channel = channelHalves channel := by
  have hlt := channel.toNat_lt
  have hupper : (channel >>> 4).toNat = channel.toNat / 16 := by
    rw [UInt8.toNat_shiftRight]
    exact Nat.shiftRight_eq_div_pow channel.toNat 4
  have hlower : (channel &&& 0x0F).toNat = channel.toNat % 16 := by
    rw [UInt8.toNat_and]
    exact Nat.and_two_pow_sub_one_eq_mod channel.toNat 4
  rw [channelDigits, channelHalves, halfDigit_eq (by omega), halfDigit_eq (by omega), hupper,
    hlower]

/-! ## Reading what was written -/

theorem ofHex_hexDigits (color : Color) : ofHex color.hexDigits = .ok color :=
  color.isSpelled_hexDigits.ofHex_eq

/-- A color is written as the numerals of its channels. -/
theorem toHex_eq_numerals (color : Color) :
    color.toHex = '#' :: [color.red, color.green, color.blue].flatMap channelNumeral := by
  simp [toHex, hexDigits, channelDigits_eq_numeral]

theorem ofHex_toHex (color : Color) : ofHex color.toHex = .ok color :=
  ofHex_of_isSpelled color.isSpelled_hexDigits

/-- Six digits are written for the color that they spell as they are, but in
uppercase. -/
theorem IsSpelled.hexDigits_eq {color : Color} {digits : List Char} (h : color.IsSpelled digits)
    (hlength : digits.length = 6) : color.hexDigits = digits.map Char.toUpper := by
  cases h with
  | six hred hgreen hblue =>
      simp [hexDigits, channelDigits_of_isChannel hred, channelDigits_of_isChannel hgreen,
        channelDigits_of_isChannel hblue]
  | three => cases hlength

theorem toHex_of_ofHex {color : Color} {input : List Char} (h : ofHex input = .ok color)
    (hlength : (dropHash input).length = 6) :
    color.toHex = '#' :: (dropHash input).map Char.toUpper := by
  rw [toHex, (isSpelled_of_ofHex h).hexDigits_eq hlength]

end Color

/-! ## White space around -/

/-- Trimming leaves a text whose ends are not trimmed. -/
theorem Text.trimBoth_append {isOuter : Char → Bool} {front text back : List Char}
    (hfront : ∀ c ∈ front, isOuter c = true) (hback : ∀ c ∈ back, isOuter c = true)
    (hne : text ≠ []) (hfirst : ∀ c ∈ text.head?, isOuter c = false)
    (hlast : ∀ c ∈ text.getLast?, isOuter c = false) :
    trimBoth isOuter (front ++ text ++ back) = text := by
  have hstart : ∀ c ∈ (text ++ back).head?, isOuter c = false := by
    obtain ⟨first, others, rfl⟩ := List.exists_cons_of_ne_nil hne
    exact hfirst
  have hend : ∀ c ∈ text.reverse.head?, isOuter c = false := by
    rwa [List.head?_reverse]
  have hafter : ∀ c ∈ back.reverse, isOuter c = true :=
    fun c hc => hback c (List.mem_reverse.1 hc)
  rw [trimBoth, List.append_assoc, (takeWhile_dropWhile_append hfront hstart).2,
    List.reverse_append, (takeWhile_dropWhile_append hafter hend).2, List.reverse_reverse]

theorem Text.isBlank_eq_false_of_isHexDigit {c : Char} (h : c.isHexDigit = true) :
    isBlank c = false := by
  rw [isHexDigit_iff, isDigit_iff] at h
  rw [Bool.eq_false_iff]
  intro hblank
  obtain ⟨range, hrange, hfirst, hlast⟩ := (inRanges_iff ascending_blankRanges).1 hblank
  simp only [blankRanges, List.mem_cons, List.not_mem_nil, or_false] at hrange
  rcases hrange with rfl | rfl | rfl | rfl | rfl | rfl | rfl | rfl | rfl | rfl <;>
    dsimp only at hfirst hlast <;> omega

/-- What is written for a color is read also within white space. -/
theorem Color.ofTrimmedHex_append (color : Color) {front back : List Char}
    (hfront : ∀ c ∈ front, Text.isBlank c = true) (hback : ∀ c ∈ back, Text.isBlank c = true) :
    ofTrimmedHex (front ++ color.toHex ++ back) = .ok color := by
  have hlast : ∀ c ∈ color.toHex.getLast?, Text.isBlank c = false := by
    intro c hc
    have hdigit : c ∈ color.hexDigits := by
      rw [toHex, List.getLast?_cons_of_ne_nil (by simp [hexDigits, channelDigits])] at hc
      exact List.mem_of_getLast? hc
    exact Text.isBlank_eq_false_of_isHexDigit (color.isSpelled_hexDigits.isHexDigit c hdigit)
  have hfirst : ∀ c ∈ color.toHex.head?, Text.isBlank c = false := by
    rintro _ ⟨⟩
    decide
  have hne : color.toHex ≠ [] := List.cons_ne_nil '#' color.hexDigits
  rw [ofTrimmedHex, Text.trim, Text.trimBoth_append hfront hback hne hfirst hlast,
    color.ofHex_toHex]

/-! ## Codes -/

namespace Marker

/-- What is left of codes without their markers. -/
def dropMarkers : List Char → List Char
  | _ :: c :: rest => c :: dropMarkers rest
  | _ => []

variable (marker : Marker)

theorem dropMarkers_codes (codes : List Char) :
    dropMarkers (codes.flatMap marker.code) = codes := by
  induction codes with
  | nil => rfl
  | cons c codes ih =>
      rw [List.flatMap_cons]
      exact congrArg (c :: ·) ih

theorem length_codes (codes : List Char) :
    (codes.flatMap marker.code).length = 2 * codes.length := by
  induction codes with
  | nil => rfl
  | cons c codes ih =>
      rw [List.flatMap_cons, List.length_append, ih, List.length_cons]
      exact Nat.add_comm 2 _

/-- A marker stands at every even place. -/
theorem getElem?_codes_even {codes : List Char} {index : Nat} (h : index < codes.length) :
    (codes.flatMap marker.code)[2 * index]? = some marker.char := by
  induction codes generalizing index with
  | nil => cases h
  | cons c codes ih =>
      cases index with
      | zero => rfl
      | succ index => exact ih (Nat.lt_of_succ_lt_succ h)

/-- The code characters stand at the odd places, in order. -/
theorem getElem?_codes_odd (codes : List Char) (index : Nat) :
    (codes.flatMap marker.code)[2 * index + 1]? = codes[index]? := by
  induction codes generalizing index with
  | nil => rfl
  | cons c codes ih =>
      cases index with
      | zero => rfl
      | succ index => exact ih index

/-- The escape of a color, channel by channel from their halves. -/
theorem escape_eq_halves (color : Color) :
    marker.escape color =
      ('x' :: [color.red, color.green, color.blue].flatMap Color.channelHalves).flatMap
        marker.code := by
  simp [escape, Color.hexDigits, Color.channelDigits_eq_halves]

end Marker

end ColorMarkup
