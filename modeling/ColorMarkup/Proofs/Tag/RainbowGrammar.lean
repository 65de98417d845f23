import ColorMarkup.Proofs.Tag.Number
import ColorMarkup.Proofs.Tag.Rainbow

/-!
# ColorMarkup.Proofs.Tag.RainbowGrammar

What the open tag of a rainbow means.

1. A well-formed tag asks for one rainbow (`RainbowTag.AsksFor`), or it is
   refused for a speed that is too large.  Its levels are never a reason.
2. What a tag asks for is a rainbow whose saturation and brightness lie between
   zero and one (`RainbowTag.AsksFor.inUnit`).
3. A text that does not start with a well-formed tag is malformed, and there is
   no other reason to call it so.

`Rainbow.rainbowTag_grammar` puts these together.
-/

namespace ColorMarkup

namespace RainbowTag

/-! ## Meaning -/

/-- The rainbow that a tag asks for: the speed that its digits stand for, the
levels that its first and its second fraction stand for, and whether it has the
flag. -/
structure AsksFor (tag : RainbowTag) (rainbow : Rainbow) : Prop where
  speed : rainbow.speed.toNat = speedValue tag.speed
  saturation : IsLevel tag.saturation rainbow.saturation
  brightness : IsLevel tag.brightness rainbow.brightness
  looping : rainbow.looping = tag.loop.isSome

/-- A tag gives the rainbow that it asks for. -/
theorem rainbow_eq_ok_iff {tag : RainbowTag} {rainbow : Rainbow} :
    tag.rainbow = .ok rainbow ↔ tag.AsksFor rainbow := by
  constructor
  · intro h
    obtain ⟨speed, hspeed, rfl⟩ := exists_of_map_eq_ok h
    exact ⟨speedOf_eq_ok_iff.1 hspeed, isLevel_iff.2 rfl, isLevel_iff.2 rfl, rfl⟩
  · rintro ⟨hspeed, hsaturation, hbrightness, hlooping⟩
    obtain ⟨speed, saturation, brightness, looping⟩ := rainbow
    rw [RainbowTag.rainbow, speedOf_eq_ok_iff.2 hspeed, Except.map, Rainbow.held,
      ← isLevel_iff.1 hsaturation, ← isLevel_iff.1 hbrightness, ← hlooping]

/-- What is asked for has levels between zero and one. -/
theorem AsksFor.inUnit {tag : RainbowTag} {rainbow : Rainbow} (h : tag.AsksFor rainbow) :
    rainbow.saturation.InUnit ∧ rainbow.brightness.InUnit :=
  ⟨h.saturation.inUnit, h.brightness.inUnit⟩

/-- Only the speed can be refused. -/
theorem rainbow_eq_error_iff {tag : RainbowTag} {error : TagError} :
    tag.rainbow = .error error ↔
      ∃ digits, tag.speed = some digits ∧ 2 ^ 32 ≤ Nat.ofDigitChars 10 digits 0 ∧
        error = .invalidNumber digits := by
  rw [rainbow, map_eq_error_iff, speedOf_eq_error_iff]

end RainbowTag

namespace Rainbow

/-! ## Reading -/

/-- What the spelling of a well-formed tag is read as. -/
theorem readTag_of_wellFormed {tag : RainbowTag} (h : tag.WellFormed) (rest : List Char) :
    readTag (tag.toText ++ rest) =
      tag.rainbow.map fun rainbow => ⟨rainbow, tag.toText, rest⟩ := by
  rw [readTag, RainbowTag.read_append h]

/-- A text is malformed if it does not start with a well-formed tag. -/
theorem exists_readTag_eq_ofFault_iff {text : List Char} :
    (∃ fault, readTag text = .error (.ofFault fault text)) ↔
      ¬ ∃ (tag : RainbowTag) (rest : List Char), tag.WellFormed ∧ text = tag.toText ++ rest := by
  constructor
  · rintro ⟨fault, h⟩ ⟨tag, rest, hwell, rfl⟩
    rw [readTag_of_wellFormed hwell, map_eq_error_iff, RainbowTag.rainbow_eq_error_iff] at h
    obtain ⟨digits, -, -, h⟩ := h
    cases h
  · intro h
    unfold readTag
    cases hread : RainbowTag.read text with
    | error fault => exact ⟨fault, rfl⟩
    | ok shape =>
        obtain ⟨tag, rest⟩ := shape
        exact absurd ⟨tag, rest, RainbowTag.read_eq_ok_iff.1 hread⟩ h

/-- The open tag of a rainbow is read exactly where the spelling of a tag stands
that asks for one, whatever follows it, and its levels lie between zero and one.
Any other text is malformed if it does not start with a well-formed tag, and
otherwise its speed is too large. -/
theorem rainbowTag_grammar (text : List Char) :
    (∀ reading : Reading Rainbow, readTag text = .ok reading ↔
      ∃ tag : RainbowTag, tag.WellFormed ∧ tag.AsksFor reading.value ∧
        reading.text = tag.toText ∧ reading.Parts text) ∧
    (∀ reading : Reading Rainbow, readTag text = .ok reading →
      reading.value.saturation.InUnit ∧ reading.value.brightness.InUnit) ∧
    ((∃ fault, readTag text = .error (.ofFault fault text)) ↔
      ¬ ∃ (tag : RainbowTag) (rest : List Char), tag.WellFormed ∧ text = tag.toText ++ rest) ∧
    (∀ (tag : RainbowTag) (rest : List Char), tag.WellFormed → text = tag.toText ++ rest →
      ∀ error, readTag text = .error error ↔
        ∃ digits, tag.speed = some digits ∧ 2 ^ 32 ≤ Nat.ofDigitChars 10 digits 0 ∧
          error = .invalidNumber digits) := by
  have hread (reading : Reading Rainbow) : readTag text = .ok reading ↔
      ∃ tag : RainbowTag, tag.WellFormed ∧ tag.AsksFor reading.value ∧
        reading.text = tag.toText ∧ reading.Parts text := by
    simp only [readTag_eq_ok_iff, RainbowTag.rainbow_eq_ok_iff]
  refine ⟨hread, ?_, exists_readTag_eq_ofFault_iff, ?_⟩
  · intro reading h
    obtain ⟨tag, -, hasks, -, -⟩ := (hread reading).1 h
    exact hasks.inUnit
  · rintro tag rest hwell rfl error
    rw [readTag_of_wellFormed hwell, map_eq_error_iff, RainbowTag.rainbow_eq_error_iff]

/-- A brightness beyond all finite numbers is one, and a speed beyond the limit
is refused. -/
theorem rainbowTag_grammar_overflow :
    (∃ reading : Reading Rainbow,
      readTag "<r:.5:1000000000000000000000000000000000000000>".toList = .ok reading ∧
        reading.value.brightness = .one ∧ reading.value.saturation.InUnit) ∧
      readTag "<r#4294967296>".toList = .error (.invalidNumber "4294967296".toList) := by
  let half : Binary32 := ⟨false, 0x3F000000, by decide⟩
  have hread : readTag "<r:.5:1000000000000000000000000000000000000000>".toList =
      .ok ⟨⟨0, half, .one, false⟩,
        "<r:.5:1000000000000000000000000000000000000000>".toList, []⟩ := by
    decide +kernel
  have hwell : RainbowTag.WellFormed ⟨false, some "4294967296".toList, none, none, none⟩ := by
    refine ⟨?_, by simp, by simp, by simp⟩
    rintro digits ⟨⟩
    exact ⟨by simp, List.all_eq_true.1 (by decide)⟩
  obtain ⟨-, hlevels, -, -⟩ :=
    rainbowTag_grammar "<r:.5:1000000000000000000000000000000000000000>".toList
  obtain ⟨-, -, -, hrefused⟩ := rainbowTag_grammar "<r#4294967296>".toList
  refine ⟨⟨_, hread, rfl, (hlevels _ hread).1⟩, ?_⟩
  exact (hrefused _ [] hwell (by decide) _).2 ⟨_, rfl, by decide, rfl⟩

end Rainbow

end ColorMarkup
