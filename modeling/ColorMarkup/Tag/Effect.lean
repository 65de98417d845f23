import ColorMarkup.Tag.Gradient
import ColorMarkup.Tag.Rainbow

/-!
# ColorMarkup.Tag.Effect

The open and close tags of effects.  The letter after `<` tells which effect
an open tag can belong to.
-/

namespace ColorMarkup

namespace EffectKind

/-- The kind of effect whose open tags start like a text. -/
def ofText? : List Char → Option EffectKind
  | '<' :: 'g' :: _ => some .gradient
  | '<' :: 'r' :: _ => some .rainbow
  | _ => none

/-- The close tags of an effect, of either name. -/
def closeTags : EffectKind → List (List Char)
  | gradient => ["</gradient>".toList, "</g>".toList]
  | rainbow => ["</rainbow>".toList, "</r>".toList]

end EffectKind

namespace Effect

/-- Reads an effect of a given kind from its open tag. -/
def readTag (kind : EffectKind) (text : List Char) : Except TagError (Reading Effect) :=
  match kind with
  | .gradient => (Gradient.readTag text).map fun r => ⟨.gradient r.value, r.text, r.rest⟩
  | .rainbow => (Rainbow.readTag text).map fun r => ⟨.rainbow r.value, r.text, r.rest⟩

/-- The tag and what follows it are the text. -/
theorem parts_of_readTag {kind : EffectKind} {text : List Char} {reading : Reading Effect}
    (h : readTag kind text = .ok reading) : reading.Parts text := by
  cases kind with
  | gradient =>
    cases hread : Gradient.readTag text with
    | error => simp [readTag, hread, Except.map] at h
    | ok r =>
      simp only [readTag, hread, Except.map, Except.ok.injEq] at h
      subst h
      exact Gradient.parts_of_readTag hread
  | rainbow =>
    cases hread : Rainbow.readTag text with
    | error => simp [readTag, hread, Except.map] at h
    | ok r =>
      simp only [readTag, hread, Except.map, Except.ok.injEq] at h
      subst h
      exact Rainbow.parts_of_readTag hread

/-- An open tag is not empty. -/
theorem text_ne_nil_of_readTag {kind : EffectKind} {text : List Char} {reading : Reading Effect}
    (h : readTag kind text = .ok reading) : reading.text ≠ [] := by
  cases kind with
  | gradient =>
    cases hread : Gradient.readTag text with
    | error => simp [readTag, hread, Except.map] at h
    | ok r =>
      simp only [readTag, hread, Except.map, Except.ok.injEq] at h
      subst h
      exact Gradient.text_ne_nil_of_readTag hread
  | rainbow =>
    cases hread : Rainbow.readTag text with
    | error => simp [readTag, hread, Except.map] at h
    | ok r =>
      simp only [readTag, hread, Except.map, Except.ok.injEq] at h
      subst h
      exact Rainbow.text_ne_nil_of_readTag hread

end Effect

end ColorMarkup
