import ColorMarkup.Proofs.Color.Hex
import ColorMarkup.Proofs.Tag.Part
import ColorMarkup.Tag.Inline

/-!
# ColorMarkup.Proofs.Tag.Inline

The tags that stand alone are read exactly where they are spelled out:

1. `Color.readTag_eq_some_iff`: six hexadecimal digits after `<#`, with the
   color that those digits are as hexadecimal text;
2. `readShorthand_eq_some_iff`: a word of ASCII letters and digits in angle
   brackets, with its first character in lowercase.
-/

namespace ColorMarkup

/-! ## Color tags -/

/-- Six digits are a color. -/
theorem Color.ofHex_of_six {r r' g g' b b' : Char}
    (h : ∀ c ∈ [r, r', g, g', b, b'], c.isHexDigit = true) :
    ofHex [r, r', g, g', b, b'] = .ok ⟨channelOf r r', channelOf g g', channelOf b b'⟩ := by
  have hspelled :
      IsSpelled ⟨channelOf r r', channelOf g g', channelOf b b'⟩ [r, r', g, g', b, b'] :=
    .six (isChannel_channelOf (h r (by simp)) (h r' (by simp)))
      (isChannel_channelOf (h g (by simp)) (h g' (by simp)))
      (isChannel_channelOf (h b (by simp)) (h b' (by simp)))
  exact hspelled.ofHex_eq

/-- A color tag is read exactly where six digits stand after `<#`. -/
theorem Color.readTag_eq_some_iff {text : List Char} {reading : Reading Color} :
    Color.readTag text = some reading ↔
      ∃ digits : List Char, digits.length = 6 ∧ (∀ c ∈ digits, c.isHexDigit = true) ∧
        Color.ofHex digits = .ok reading.value ∧
        reading.text = '<' :: '#' :: digits ++ ['>'] ∧ reading.Parts text := by
  constructor
  · intro h
    have hparts := Color.parts_of_readTag h
    unfold Color.readTag at h
    split at h
    · rename_i r r' g g' b b' rest
      split at h
      · rename_i hdigits
        cases h
        rw [List.all_eq_true] at hdigits
        exact ⟨[r, r', g, g', b, b'], rfl, hdigits, Color.ofHex_of_six hdigits, rfl, hparts⟩
      · cases h
    · cases h
  · rintro ⟨digits, hlength, hdigits, hcolor, htext, hparts⟩
    obtain ⟨value, taken, rest⟩ := reading
    match digits, hlength with
    | [r, r', g, g', b, b'], _ =>
        subst htext
        rw [Color.ofHex_of_six hdigits] at hcolor
        cases hcolor
        rw [← List.all_eq_true] at hdigits
        rw [hparts]
        simp only [List.cons_append, List.nil_append, Color.readTag, hdigits, if_pos]

/-! ## Shorthand tags -/

/-- A shorthand tag is read exactly where a word stands in angle brackets. -/
theorem readShorthand_eq_some_iff {text : List Char} {reading : Reading Char} :
    readShorthand text = some reading ↔
      ∃ (first : Char) (others : List Char), IsRun Char.isAlphanum (first :: others) ∧
        reading.value = first.toLower ∧ reading.text = '<' :: first :: others ++ ['>'] ∧
        reading.Parts text := by
  constructor
  · intro h
    have hparts := parts_of_readShorthand h
    unfold readShorthand at h
    split at h
    · split at h
      · rename_i first others rest hrun
        cases h
        exact ⟨first, others, isRun_of_readRun hrun, rfl, rfl, hparts⟩
      · cases h
    · cases h
  · rintro ⟨first, others, hrun, hvalue, htext, hparts⟩
    obtain ⟨value, taken, rest⟩ := reading
    subst htext hvalue
    have hread : readRun Char.isAlphanum (first :: others ++ '>' :: rest) =
        some (first :: others, '>' :: rest) := readRun_append hrun (by simp)
    rw [hparts]
    simp only [List.cons_append, List.append_assoc, List.nil_append] at hread ⊢
    simp only [readShorthand, hread, List.cons_append]

end ColorMarkup
