import ColorMarkup.Proofs.Tag.Part
import ColorMarkup.Tag.Rainbow

/-!
# ColorMarkup.Proofs.Tag.Rainbow

A rainbow tag is read exactly where the spelling of a well-formed tag stands
(`RainbowTag.read_eq_ok_iff`).  A single level is always the saturation, so a
well-formed tag has no brightness without one.
-/

namespace ColorMarkup

namespace RainbowTag

/-- A tag as it can be read: with no empty run, and a brightness only after a
saturation. -/
structure WellFormed (tag : RainbowTag) : Prop where
  speed : ∀ digits ∈ tag.speed, IsRun Char.isDigit digits
  saturation : ∀ fraction ∈ tag.saturation, fraction.WellFormed
  brightness : ∀ fraction ∈ tag.brightness, fraction.WellFormed
  inOrder : tag.saturation = none → tag.brightness = none

/-- Where no level stands, none stands afterwards. -/
theorem readLevel_of_eq_none {text rest : List Char} (h : readLevel text = (none, rest)) :
    readLevel rest = (none, rest) := by
  have htext := eq_append_of_readLevel h
  rw [levelText, List.nil_append] at htext
  rwa [htext] at h

theorem wellFormed_of_read {text rest : List Char} {tag : RainbowTag}
    (h : read text = .ok (tag, rest)) : tag.WellFormed := by
  unfold read at h
  simp only [bind, Except.bind, pure, Except.pure] at h
  split at h <;> try cases h
  split at h <;> try cases h
  rename_i name hname
  obtain ⟨isLong, text₂⟩ := name
  cases hspeed : readSpeed text₂ with | mk speed text₃ => ?_
  cases hsaturation : readLevel text₃ with | mk saturation text₄ => ?_
  cases hbrightness : readLevel text₄ with | mk brightness text₅ => ?_
  simp only [hspeed, hsaturation, hbrightness] at h
  split at h <;> try cases h
  refine ⟨isRun_of_readSpeed hspeed, wellFormed_of_readLevel hsaturation,
    wellFormed_of_readLevel hbrightness, ?_⟩
  rintro rfl
  rw [readLevel_of_eq_none hsaturation] at hbrightness
  exact congrArg Prod.fst hbrightness.symm

/-- A well-formed tag reads back from its spelling, whatever follows it. -/
theorem read_append {tag : RainbowTag} (h : tag.WellFormed) (rest : List Char) :
    read (tag.toText ++ rest) = .ok (tag, rest) := by
  obtain ⟨isLong, speed, saturation, brightness, loop⟩ := tag
  obtain ⟨hspeed, hsaturation, hbrightness, horder⟩ := h
  -- the text after each part, from the last one to the first
  let afterLevels := loopText loop ++ '>' :: rest
  let afterSaturation := levelText brightness ++ afterLevels
  let afterSpeed := levelText saturation ++ afterSaturation
  have hlevelsEnd : AtPartEnd afterLevels := .loopText_append loop rest
  have hsaturationEnd : AtPartEnd afterSaturation := .levelText_append brightness hlevelsEnd
  have hspeedEnd : AtPartEnd afterSpeed := .levelText_append saturation hsaturationEnd
  have hlong : longName.isPrefixOf (shortName ++ (speedText speed ++ afterSpeed)) = false := by
    cases speed with
    | none =>
        obtain ⟨after, hafter | hafter⟩ := hspeedEnd <;> rw [hafter] <;> rfl
    | some digits => rfl
  have hbrightnessRead : readLevel afterSaturation = (brightness, afterLevels) := by
    cases brightness with
    | none => exact readLevel_loopText_append loop rest
    | some fraction => exact readLevel_append (hbrightness fraction rfl) hlevelsEnd
  have hsaturationRead : readLevel afterSpeed = (saturation, afterSaturation) := by
    cases saturation with
    | none =>
        obtain rfl := horder rfl
        exact readLevel_loopText_append loop rest
    | some fraction => exact readLevel_append (hsaturation fraction rfl) hsaturationEnd
  have hloopRead : readLoop afterLevels = (loop, '>' :: rest) := readLoop_append loop rest
  have htext : toText ⟨isLong, speed, saturation, brightness, loop⟩ ++ rest =
      '<' :: (nameText longName shortName isLong ++ (speedText speed ++ afterSpeed)) := by
    simp [toText, afterSpeed, afterSaturation, afterLevels]
  rw [htext]
  simp only [read, readChar, if_pos, readName_append fun _ => hlong,
    readSpeed_append hspeed hspeedEnd, bind, Except.bind, pure, Except.pure, hsaturationRead,
    hbrightnessRead, hloopRead]

/-- A tag is read exactly where its spelling stands. -/
theorem read_eq_ok_iff {text rest : List Char} {tag : RainbowTag} :
    read text = .ok (tag, rest) ↔ tag.WellFormed ∧ text = tag.toText ++ rest := by
  constructor
  · exact fun h => ⟨wellFormed_of_read h, eq_append_of_read h⟩
  · rintro ⟨hwell, rfl⟩
    exact read_append hwell rest

end RainbowTag

namespace Rainbow

/-- A rainbow is read from the spelling of a tag that asks for it. -/
theorem readTag_eq_ok_iff {text : List Char} {reading : Reading Rainbow} :
    readTag text = .ok reading ↔
      ∃ tag : RainbowTag, tag.WellFormed ∧ tag.rainbow = .ok reading.value ∧
        reading.text = tag.toText ∧ reading.Parts text := by
  constructor
  · intro h
    have hparts := parts_of_readTag h
    unfold readTag at h
    split at h
    · cases h
    · rename_i tag rest hread
      obtain ⟨rainbow, hrainbow, rfl⟩ := exists_of_map_eq_ok h
      exact ⟨tag, RainbowTag.wellFormed_of_read hread, hrainbow, rfl, hparts⟩
  · rintro ⟨tag, hwell, hrainbow, htext, hparts⟩
    obtain ⟨value, taken, rest⟩ := reading
    subst htext
    rw [hparts, readTag, RainbowTag.read_append hwell]
    simp [hrainbow, Except.map]

/-- An open tag means the same before any text. -/
theorem readTag_append {text : List Char} {reading : Reading Rainbow}
    (h : readTag text = .ok reading) (rest : List Char) :
    readTag (reading.text ++ rest) = .ok { reading with rest := rest } := by
  obtain ⟨tag, hwell, hrainbow, htext, -⟩ := readTag_eq_ok_iff.1 h
  exact readTag_eq_ok_iff.2 ⟨tag, hwell, hrainbow, htext, rfl⟩

end Rainbow

end ColorMarkup
