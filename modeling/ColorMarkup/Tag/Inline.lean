import ColorMarkup.Tag.Part

/-!
# ColorMarkup.Tag.Inline

Tags that stand alone:

1. a color tag, such as `<#00FF00>`, with exactly six digits;
2. a shorthand tag, such as `<bold>`, a word of ASCII letters and digits whose
   first character is a code.
-/

namespace ColorMarkup

/-- Reads a color tag. -/
def Color.readTag : List Char → Option (Reading Color)
  | '<' :: '#' :: r :: r' :: g :: g' :: b :: b' :: '>' :: rest =>
    if [r, r', g, g', b, b'].all Char.isHexDigit then
      some
        { value := ⟨channelOf r r', channelOf g g', channelOf b b'⟩
          text := ['<', '#', r, r', g, g', b, b', '>']
          rest := rest }
    else none
  | _ => none

/-- The tag and what follows it are the text. -/
theorem Color.parts_of_readTag {text : List Char} {reading : Reading Color}
    (h : Color.readTag text = some reading) : reading.Parts text := by
  unfold Color.readTag at h
  split at h
  · split at h
    · cases h; rfl
    · cases h
  · cases h

theorem Color.text_ne_nil_of_readTag {text : List Char} {reading : Reading Color}
    (h : Color.readTag text = some reading) : reading.text ≠ [] := by
  unfold Color.readTag at h
  split at h
  · split at h
    · cases h; simp
    · cases h
  · cases h

/-- Reads a shorthand tag; its meaning is a code character in lowercase. -/
def readShorthand : List Char → Option (Reading Char)
  | '<' :: after =>
    match readRun Char.isAlphanum after with
    | some (first :: others, '>' :: rest) =>
      some ⟨first.toLower, '<' :: first :: others ++ ['>'], rest⟩
    | _ => none
  | _ => none

/-- The tag and what follows it are the text. -/
theorem parts_of_readShorthand {text : List Char} {reading : Reading Char}
    (h : readShorthand text = some reading) : reading.Parts text := by
  unfold readShorthand at h
  split at h
  · split at h
    · rename_i hrun
      cases h
      simp [Reading.Parts, (eq_append_of_readRun hrun).2]
    · cases h
  · cases h

theorem text_ne_nil_of_readShorthand {text : List Char} {reading : Reading Char}
    (h : readShorthand text = some reading) : reading.text ≠ [] := by
  unfold readShorthand at h
  split at h
  · split at h
    · cases h; simp
    · cases h
  · cases h

end ColorMarkup
