import ColorMarkup.Proofs.Color.Written
import ColorMarkup.Proofs.Tag.Inline
import ColorMarkup.Proofs.Token.Scanner
import ColorMarkup.Render

/-!
# ColorMarkup.Proofs.Render.ColorTag

Color tags in markup, and how they fit the other ways to write a color.

1. Where color tags are on, one at the front of a text is rendered as the escape
   of its color, and what follows it as if it stood alone
   (`Config.transform_colorTag`).  No other kind of markup comes before it, under
   any markers.
2. All ways to write a color agree with all ways to read one
   (`Color.writings_agree`).
-/

namespace ColorMarkup

namespace Config

variable {config : Config} {color : Color} {digits : List Char}

/-- A color tag at the front of a text is the next token. -/
theorem readNext_colorTag (hon : config.tags.hex = true) (h : color.IsSpelled digits)
    (hlength : digits.length = 6) (rest : List Char) :
    config.readNext '<' ('#' :: digits ++ '>' :: rest) =
      ⟨.color color, '<' :: '#' :: digits ++ ['>'], rest⟩ := by
  have hread : Color.readTag ('<' :: ('#' :: digits ++ '>' :: rest)) =
      some ⟨color, '<' :: '#' :: digits ++ ['>'], rest⟩ :=
    Color.readTag_eq_some_iff.2
      ⟨digits, hlength, h.isHexDigit, h.ofHex_eq, rfl, by simp [Reading.Parts]⟩
  -- No open tag of an effect starts with `<#`.
  have hahead : Scanner.effectAhead? config ('<' :: ('#' :: digits ++ '>' :: rest)) = none := rfl
  rw [readNext_eq, hahead, Option.bind_none, Option.getD_none]
  simp only [readToken, readInlineTag?, if_pos, hon, hread, Option.getD_some]

/-- A color tag is rendered as the escape of its color, and does not matter to
what follows it. -/
theorem transform_colorTag (hon : config.tags.hex = true) (h : color.IsSpelled digits)
    (hlength : digits.length = 6) (rest : List Char) :
    config.transform ('<' :: '#' :: digits ++ '>' :: rest) =
      config.marker.escape color ++ config.transform rest := by
  have htokens : config.tokens ('<' :: '#' :: digits ++ '>' :: rest) =
      .color color :: config.tokens rest := by
    rw [List.cons_append, tokens_cons, readNext_colorTag hon h hlength]
  rw [transform, htokens, List.flatMap_cons]
  rfl

end Config

namespace Color

theorem length_hexDigits (color : Color) : color.hexDigits.length = 6 := rfl

/-- All ways to write a color agree with all ways to read one.

1. What is written is the numerals of the channels, and is read as the color
   with and without the `#`.
2. An escape holds the marker at all even places and at the odd ones an `x` and
   the digits that are written, although it takes them from the halves of the
   channels.  Without its markers and the `x` it is read as the color.
3. What is written is read also within white space.
4. A tag with what is written is rendered as the escape, before any text.
5. Six digits that are read as the color are those that are written, but for
   their case. -/
theorem writings_agree (color : Color) (marker : Marker) :
    (color.toHex = '#' :: [color.red, color.green, color.blue].flatMap channelNumeral ∧
      color.toHex.length = 7 ∧
      ofHex color.toHex = .ok color ∧ ofHex color.toHex.tail = .ok color) ∧
    (marker.escape color = ('x' :: [color.red, color.green, color.blue].flatMap
        channelHalves).flatMap marker.code ∧
      (marker.escape color).length = 14 ∧
      (∀ index < 7, (marker.escape color)[2 * index]? = some marker.char) ∧
      (∀ index < 7, (marker.escape color)[2 * index + 1]? = ('x' :: color.toHex.tail)[index]?) ∧
      ofHex (Marker.dropMarkers (marker.escape color)).tail = .ok color) ∧
    (∀ front back : List Char, (∀ c ∈ front, Text.isBlank c = true) →
      (∀ c ∈ back, Text.isBlank c = true) →
      ofTrimmedHex (front ++ color.toHex ++ back) = .ok color) ∧
    (∀ (config : Config) (rest : List Char), config.tags.hex = true →
      config.transform ('<' :: color.toHex ++ '>' :: rest) =
        config.marker.escape color ++ config.transform rest) ∧
    ∀ input : List Char, ofHex input = .ok color → (dropHash input).length = 6 →
      color.toHex = '#' :: (dropHash input).map Char.toUpper := by
  refine ⟨⟨color.toHex_eq_numerals, rfl, color.ofHex_toHex, color.ofHex_hexDigits⟩,
    ⟨marker.escape_eq_halves color, ?_, ?_, ?_, ?_⟩, ?_, ?_, ?_⟩
  · exact marker.length_codes ('x' :: color.hexDigits)
  · intro index hindex
    have hcode : index < ('x' :: color.hexDigits).length := hindex
    exact marker.getElem?_codes_even hcode
  · intro index _
    exact marker.getElem?_codes_odd ('x' :: color.hexDigits) index
  · rw [Marker.escape, Marker.dropMarkers_codes]
    exact color.ofHex_hexDigits
  · intro front back hfront hback
    exact color.ofTrimmedHex_append hfront hback
  · intro config rest hon
    exact Config.transform_colorTag hon color.isSpelled_hexDigits color.length_hexDigits rest
  · intro input h hlength
    exact toHex_of_ofHex h hlength

/-- A color of six different digits within white space of two kinds, in a tag in
front of an open tag without an end, and in digits of both cases. -/
theorem writings_agree_six_digits :
    ((∀ c ∈ ['\t', '\u3000'], Text.isBlank c = true) ∧
        ofTrimmedHex "\t\u3000#12ABEF\t\u3000".toList = .ok ⟨0x12, 0xAB, 0xEF⟩) ∧
      (({} : Config).tags.hex = true ∧
        ({} : Config).transform "<#12ABEF><g:#f00:#00f>&a".toList =
          "§x§1§2§A§B§E§F<g:#f00:#00f>§a".toList) ∧
      (ofHex "12aBeF".toList = .ok ⟨0x12, 0xAB, 0xEF⟩ ∧
        toHex ⟨0x12, 0xAB, 0xEF⟩ = "#12ABEF".toList) := by
  obtain ⟨-, -, htrimmed, htag, hcase⟩ := writings_agree ⟨0x12, 0xAB, 0xEF⟩ .sectionSign
  have hblank : ∀ c ∈ ['\t', '\u3000'], Text.isBlank c = true := List.all_eq_true.1 (by decide)
  have hdigits : ofHex "12aBeF".toList = .ok ⟨0x12, 0xAB, 0xEF⟩ := rfl
  have hrest : ({} : Config).transform "<g:#f00:#00f>&a".toList = "<g:#f00:#00f>§a".toList := by
    decide +kernel
  have htransform := htag {} "<g:#f00:#00f>&a".toList rfl
  rw [hrest] at htransform
  exact ⟨⟨hblank, htrimmed _ _ hblank hblank⟩, ⟨rfl, htransform⟩,
    ⟨hdigits, hcase _ hdigits rfl⟩⟩

end Color

end ColorMarkup
