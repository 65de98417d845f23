import ColorMarkup.Proofs.Tag.Gradient
import ColorMarkup.Proofs.Tag.Rainbow
import ColorMarkup.Tag.Effect

/-!
# ColorMarkup.Proofs.Tag.Effect

Open tags of both kinds of effects.  An open tag means the same before any
text, it asks for an effect of its own kind, and the letter after `<` already
tells that kind.
-/

namespace ColorMarkup.Effect

/-- An open tag means the same before any text. -/
theorem readTag_append {kind : EffectKind} {text : List Char} {reading : Reading Effect}
    (h : readTag kind text = .ok reading) (rest : List Char) :
    readTag kind (reading.text ++ rest) = .ok { reading with rest := rest } := by
  cases kind with
  | gradient =>
      obtain ⟨r, hread, rfl⟩ := exists_of_map_eq_ok h
      simp [readTag, Gradient.readTag_append hread, Except.map]
  | rainbow =>
      obtain ⟨r, hread, rfl⟩ := exists_of_map_eq_ok h
      simp [readTag, Rainbow.readTag_append hread, Except.map]

/-- An open tag asks for an effect of its own kind. -/
theorem kind_of_readTag {kind : EffectKind} {text : List Char} {reading : Reading Effect}
    (h : readTag kind text = .ok reading) : reading.value.kind = kind := by
  cases kind with
  | gradient =>
      obtain ⟨r, -, rfl⟩ := exists_of_map_eq_ok h
      rfl
  | rainbow =>
      obtain ⟨r, -, rfl⟩ := exists_of_map_eq_ok h
      rfl

/-- The letter after `<` tells the kind of an open tag. -/
theorem ofText?_of_readTag {kind : EffectKind} {text : List Char} {reading : Reading Effect}
    (h : readTag kind text = .ok reading) : EffectKind.ofText? text = some kind := by
  rw [parts_of_readTag h]
  cases kind with
  | gradient =>
      obtain ⟨r, hread, rfl⟩ := exists_of_map_eq_ok h
      obtain ⟨⟨isLong, speed, stops, loop⟩, -, -, htext, -⟩ := Gradient.readTag_eq_ok_iff.1 hread
      dsimp only
      rw [htext]
      cases isLong <;> rfl
  | rainbow =>
      obtain ⟨r, hread, rfl⟩ := exists_of_map_eq_ok h
      obtain ⟨⟨isLong, speed, saturation, brightness, loop⟩, -, -, htext, -⟩ :=
        Rainbow.readTag_eq_ok_iff.1 hread
      dsimp only
      rw [htext]
      cases isLong <;> rfl

end ColorMarkup.Effect
