import ColorMarkup.Proofs.Render.Body
import ColorMarkup.Proofs.Text.Cluster

/-!
# ColorMarkup.Proofs.Render.Units

The units over which an effect is spread, against the clusters of the text
that a reader sees.

The plain texts of a body are cut into clusters one by one, so the units are
the clusters of the text that is shown exactly if no cluster of it reaches
over the start of a token (`Config.map_text_bodyGlyphs_eq_iff`).  A cluster of
a letter and its combining mark does so if a code stands between the two.
-/

namespace ColorMarkup.Config

/-- The units of a span are the clusters of the text that stripping leaves of
it exactly if none of these clusters reaches over the start of a token of its
body. -/
theorem map_text_bodyGlyphs_eq_iff {config : Config} {effect : Effect} {body : List Char} :
    (config.bodyGlyphs body).map StyledGlyph.text =
        Text.clusters (config.stripToken (.span effect body)) ↔
      ∀ front token back, config.bodyTokens body = front ++ token :: back →
        Text.IsBoundary (front.flatMap Token.plainText)
          ((token :: back).flatMap Token.plainText) := by
  have htexts := @Text.flatMap_clusters_eq_iff ((config.bodyTokens body).map Token.plainText)
  rw [List.flatMap_map, ← List.flatMap_def] at htexts
  rw [map_text_bodyGlyphs, stripToken, bodyText, htexts]
  constructor
  · intro h front token back htokens
    have hcut := h (front.map Token.plainText) token.plainText (back.map Token.plainText)
      (by rw [htokens, List.map_append, List.map_cons])
    rwa [← List.map_cons, ← List.flatMap_def, ← List.flatMap_def] at hcut
  · intro h front text back hsplit
    obtain ⟨before, after, htokens, rfl, hafter⟩ := List.map_eq_append_iff.1 hsplit
    obtain ⟨token, rest, rfl, rfl, rfl⟩ := List.map_eq_cons_iff.1 hafter
    rw [← List.map_cons, ← List.flatMap_def, ← List.flatMap_def]
    exact h before token rest htokens

/-- A letter and its combining mark with a code between them are one cluster
of the text that is shown, and yet two units. -/
theorem map_text_bodyGlyphs_ne_clusters : ({} : Config).Valid ∧
    ∃ effect body, ({} : Config).tokens "<g:#f00:#00f>e&c\u0301</g>".toList = [.span effect body] ∧
      Text.clusters (({} : Config).stripToken (.span effect body)) = [['e', '\u0301']] ∧
      (({} : Config).bodyGlyphs body).map StyledGlyph.text = [['e'], ['\u0301']] := by
  refine ⟨valid_default, .gradient ⟨[⟨255, 0, 0⟩, ⟨0, 0, 255⟩], 0, false⟩, "e&c\u0301".toList, ?_⟩
  decide +kernel

end ColorMarkup.Config
