import ColorMarkup.Config
import ColorMarkup.Proofs.Color.Hex
import ColorMarkup.Proofs.Tag.Bracket
import ColorMarkup.Proofs.Tag.Effect
import ColorMarkup.Proofs.Tag.Inline

/-!
# ColorMarkup.Proofs.Tag.Alphabet

The characters that tags are made of.

1. Gradient tags, color tags, shorthand tags and close tags are made of
   letters, digits and the tag signs, which are all reserved
   (`Config.IsReservedText`): no valid configuration has one as a marker.
2. A rainbow tag may also hold the point of a fraction, which is not reserved
   (`Rainbow.eq_or_isReserved_of_readTag`).
3. Hence under a valid configuration no tag holds a marker, unless the point
   is one, and then some rainbow tag does (`Config.Valid.avoids_tags`).
-/

namespace ColorMarkup

/-! ## Reserved characters -/

/-- The digits of a color are letters and digits. -/
theorem Color.isAlphanum_of_mem_hexDigits {color : Color} {c : Char} (h : c ∈ color.hexDigits) :
    c.isAlphanum = true :=
  isAlphanum_of_isHexDigit (color.isSpelled_hexDigits.isHexDigit c h)

namespace Config

theorem isReserved_of_isAlphanum {c : Char} (h : c.isAlphanum = true) : isReserved c = true := by
  simp [isReserved, Text.isAlphanumeric_of_isAlphanum h]

/-- A character with another meaning is no marker. -/
theorem Valid.isMarker_eq_false {config : Config} (h : config.Valid) {c : Char}
    (hc : isReserved c = true) : config.isMarker c = false := by
  obtain ⟨-, hmarker, halternate⟩ := valid_iff.1 h
  have hne (marker : Char) (hfree : isReserved marker = false) : c ≠ marker := by
    rintro rfl
    rw [hc] at hfree
    cases hfree
  simp [isMarker, hne _ hmarker, hne _ halternate]

/-- A text of characters that have another meaning. -/
def IsReservedText (text : List Char) : Prop :=
  ∀ c ∈ text, isReserved c = true

instance (text : List Char) : Decidable (IsReservedText text) :=
  decidable_of_iff (text.all isReserved = true) List.all_eq_true

/-- Letters, digits and the signs of tags are reserved. -/
theorem isReservedText_of_isMadeOf {text : List Char} (h : IsMadeOf tagSigns text) :
    IsReservedText text := by
  intro c hc
  obtain halpha | hsign := h c hc
  · exact isReserved_of_isAlphanum halpha
  · simp [isReserved, hsign]

/-- A text in brackets is reserved if it holds no sign but those of tag parts. -/
theorem isReservedText_brackets {inner : List Char} (h : IsMadeOf partSigns inner) :
    IsReservedText ('<' :: inner ++ ['>']) :=
  isReservedText_of_isMadeOf (h.brackets.mono (by simp [partSigns, tagSigns]))

end Config

open Config

/-! ## Tags of reserved characters -/

theorem GradientTag.isReservedText_toText {tag : GradientTag} (h : tag.WellFormed) :
    IsReservedText tag.toText :=
  isReservedText_brackets (isMadeOf_inner h)

theorem Gradient.isReservedText_of_readTag {text : List Char} {reading : Reading Gradient}
    (h : Gradient.readTag text = .ok reading) : IsReservedText reading.text := by
  obtain ⟨tag, hwell, -, htext, -⟩ := readTag_eq_ok_iff.1 h
  rw [htext]
  exact GradientTag.isReservedText_toText hwell

theorem isReservedText_hexTag {digits : List Char} (h : ∀ c ∈ digits, c.isHexDigit = true) :
    IsReservedText ('<' :: '#' :: digits ++ ['>']) := by
  have hdigits : IsMadeOf partSigns digits := isMadeOf_of_forall h isAlphanum_of_isHexDigit
  have hinner : IsMadeOf partSigns ('#' :: digits) := isMadeOf_cons.2 ⟨by decide, hdigits⟩
  exact isReservedText_brackets hinner

theorem Color.isReservedText_of_readTag {text : List Char} {reading : Reading Color}
    (h : Color.readTag text = some reading) : IsReservedText reading.text := by
  obtain ⟨digits, -, hdigits, -, htext, -⟩ := readTag_eq_some_iff.1 h
  rw [htext]
  exact isReservedText_hexTag hdigits

theorem isReservedText_wordTag {word : List Char} (h : ∀ c ∈ word, c.isAlphanum = true) :
    IsReservedText ('<' :: word ++ ['>']) :=
  isReservedText_brackets (isMadeOf_of_forall h id)

theorem isReservedText_of_readShorthand {text : List Char} {reading : Reading Char}
    (h : readShorthand text = some reading) : IsReservedText reading.text := by
  obtain ⟨first, others, hword, -, htext, -⟩ := readShorthand_eq_some_iff.1 h
  rw [htext]
  exact isReservedText_wordTag hword.2

theorem EffectKind.isReservedText_of_mem_closeTags {kind : EffectKind} {tag : List Char}
    (h : tag ∈ kind.closeTags) : IsReservedText tag := by
  have hsigns : ∀ tag ∈ kind.closeTags, IsMadeOf tagSigns tag := by
    cases kind <;> decide
  exact isReservedText_of_isMadeOf (hsigns tag h)

/-! ## Rainbow tags -/

/-- A rainbow tag is reserved but for the points of its levels. -/
theorem RainbowTag.eq_or_isReserved_of_mem_toText {tag : RainbowTag} (h : tag.WellFormed)
    {c : Char} (hc : c ∈ tag.toText) : c = '.' ∨ isReserved c = true := by
  obtain halpha | hsign := (isMadeOf_inner h).brackets c hc
  · exact .inr (isReserved_of_isAlphanum halpha)
  · have hmem : c = '.' ∨ c ∈ tagSigns := by
      simp only [fractionSigns, List.mem_cons, List.not_mem_nil, or_false] at hsign
      obtain rfl | rfl | rfl | rfl | rfl := hsign <;> simp [tagSigns]
    exact hmem.imp_right fun h => by simp [isReserved, h]

theorem Rainbow.eq_or_isReserved_of_readTag {text : List Char} {reading : Reading Rainbow}
    (h : Rainbow.readTag text = .ok reading) {c : Char} (hc : c ∈ reading.text) :
    c = '.' ∨ isReserved c = true := by
  obtain ⟨tag, hwell, -, htext, -⟩ := readTag_eq_ok_iff.1 h
  rw [htext] at hc
  exact tag.eq_or_isReserved_of_mem_toText hwell hc

/-- The point does occur: a saturation of one half. -/
theorem Rainbow.exists_readTag_point :
    ∃ reading, Rainbow.readTag "<r:.5>".toList = .ok reading ∧ reading.text = "<r:.5>".toList :=
  ⟨_, rfl, rfl⟩

/-! ## Markers -/

namespace Config

/-- A text without markers. -/
def Avoids (config : Config) (text : List Char) : Prop :=
  ∀ c ∈ text, config.isMarker c = false

theorem Valid.avoids {config : Config} (h : config.Valid) {text : List Char}
    (htext : IsReservedText text) : config.Avoids text :=
  fun c hc => h.isMarker_eq_false (htext c hc)

/-- A reserved character is not the host's marker. -/
theorem Valid.ne_marker {config : Config} (hvalid : config.Valid) {c : Char}
    (h : isReserved c = true) : c ≠ config.marker.char := by
  rintro rfl
  have hmarker := hvalid.isMarker_eq_false h
  simp [isMarker] at hmarker

/-- A reserved text does not hold the host's marker. -/
theorem Valid.notMem_of_isReservedText {config : Config} (hvalid : config.Valid) {text : List Char}
    (h : IsReservedText text) : config.marker.char ∉ text :=
  fun hmem => hvalid.ne_marker (h _ hmem) rfl

/-- An open tag does not hold the host's marker unless that is the point. -/
theorem Valid.notMem_opening {config : Config} (hvalid : config.Valid)
    (hpoint : config.marker.char ≠ '.') {kind : EffectKind} {text : List Char}
    {reading : Reading Effect} (h : Effect.readTag kind text = .ok reading) :
    config.marker.char ∉ reading.text := by
  cases kind with
  | gradient =>
      obtain ⟨r, hread, rfl⟩ := exists_of_map_eq_ok h
      exact hvalid.notMem_of_isReservedText (Gradient.isReservedText_of_readTag hread)
  | rainbow =>
      obtain ⟨r, hread, rfl⟩ := exists_of_map_eq_ok h
      intro hmem
      have hreserved := (Rainbow.eq_or_isReserved_of_readTag hread hmem).resolve_left hpoint
      exact hvalid.ne_marker hreserved rfl

/-- Under a valid configuration no gradient tag, color tag, shorthand tag or
close tag holds a marker, and no rainbow tag does exactly if the point is no
marker. -/
theorem Valid.avoids_tags {config : Config} (h : config.Valid) :
    (∀ text reading, Gradient.readTag text = .ok reading → config.Avoids reading.text) ∧
    (∀ text reading, Color.readTag text = some reading → config.Avoids reading.text) ∧
    (∀ text reading, readShorthand text = some reading → config.Avoids reading.text) ∧
    (∀ kind : EffectKind, ∀ tag ∈ kind.closeTags, config.Avoids tag) ∧
    ((∀ text reading, Rainbow.readTag text = .ok reading → config.Avoids reading.text) ↔
      config.isMarker '.' = false) := by
  refine ⟨?_, ?_, ?_, ?_, ?_, ?_⟩
  · exact fun _ _ hread => h.avoids (Gradient.isReservedText_of_readTag hread)
  · exact fun _ _ hread => h.avoids (Color.isReservedText_of_readTag hread)
  · exact fun _ _ hread => h.avoids (isReservedText_of_readShorthand hread)
  · exact fun _ _ hmem => h.avoids (EffectKind.isReservedText_of_mem_closeTags hmem)
  · intro havoids
    obtain ⟨reading, hread, htext⟩ := Rainbow.exists_readTag_point
    exact havoids _ reading hread '.' (by rw [htext]; decide)
  · intro hpoint text reading hread c hc
    rcases Rainbow.eq_or_isReserved_of_readTag hread hc with rfl | hreserved
    · exact hpoint
    · exact h.isMarker_eq_false hreserved

/-- The default markers do not occur in a tag with a point. -/
theorem avoids_tag_of_half : ({} : Config).Valid ∧ ({} : Config).isMarker '.' = false ∧
    ({} : Config).Avoids "<r:.5>".toList := by
  obtain ⟨reading, hread, htext⟩ := Rainbow.exists_readTag_point
  have hpoint : ({} : Config).isMarker '.' = false := by decide
  have havoids := (Valid.avoids_tags valid_default).2.2.2.2.2 hpoint _ reading hread
  rw [htext] at havoids
  exact ⟨valid_default, hpoint, havoids⟩

/-- A configuration with the point as its marker is valid, and yet the marker
occurs in a tag. -/
theorem not_avoids_tag_of_half : ({ marker := ⟨'.'⟩ } : Config).Valid ∧
    ∃ reading, Rainbow.readTag "<r:.5>".toList = .ok reading ∧
      ¬ ({ marker := ⟨'.'⟩ } : Config).Avoids reading.text := by
  obtain ⟨reading, hread, htext⟩ := Rainbow.exists_readTag_point
  refine ⟨by decide, reading, hread, ?_⟩
  rw [htext]
  intro havoids
  exact absurd (havoids '.' (by decide)) (by decide)

end Config

end ColorMarkup
