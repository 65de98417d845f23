import ColorMarkup.Proofs.Token.Lossless
import ColorMarkup.Render
import Mathlib.Data.List.Basic

/-!
# ColorMarkup.Proofs.Render.Body

The text of a span's body, as both renderers see it.

1. A body has no spans (`ne_span_of_mem_bodyTokens`), so its glyphs are the
   clusters of its plain texts, and the tokens before a glyph tell its formats
   (`bodyGlyphs_eq`).
2. Hence the glyphs of a body hold its bare text (`flatMap_text_bodyGlyphs`).
3. All characters that are shown are characters of the markup
   (`mem_of_mem_strip`).
-/

namespace ColorMarkup

/-! ## Tokens of a body -/

/-- Inside a span a kind is on if it is on outside and is no effect. -/
theorem Config.has_tags_inline (config : Config) (kind : TagKind) :
    config.inline.tags.has kind = (config.tags.has kind && TagKinds.inline.has kind) :=
  TagKinds.has_ofTest _ kind

/-- Effects are off in a body, so it has no spans. -/
theorem Config.ne_span_of_mem_bodyTokens {config : Config} {body : List Char} {token : Token}
    (h : token ∈ config.bodyTokens body) (effect : Effect) (inner : List Char) :
    token ≠ .span effect inner := by
  rintro rfl
  obtain ⟨piece, hreads, -⟩ := Config.exists_reads_of_mem_tokens h
  have hon := hreads.span_eq.1
  rw [config.has_tags_inline, Bool.and_eq_true] at hon
  exact EffectKind.ne_tagKind_of_inline hon.2 effect.kind rfl

/-! ## Formats and glyphs along a body -/

/-- What a token does if it is a standard code. -/
def Token.codeKind? : Token → Option CodeKind
  | .code c => CodeKind.of? c
  | _ => none

/-- The formats that are on after a token. -/
def Formats.afterToken (active : Formats) (token : Token) : Formats :=
  token.codeKind?.elim active active.after

/-- The formats that are on after some tokens. -/
def formatsAfter (tokens : List Token) : Formats :=
  tokens.foldl Formats.afterToken .empty

theorem formatsAfter_concat (tokens : List Token) (token : Token) :
    formatsAfter (tokens ++ [token]) = (formatsAfter tokens).afterToken token := by
  simp [formatsAfter]

/-- A glyph, and the tokens before the one that it is in. -/
structure PlacedGlyph where
  before : List Token
  text : List Char
deriving DecidableEq, Repr

/-- The glyphs of the plain texts among some tokens, given the tokens before
those. -/
def glyphsFrom (before : List Token) : List Token → List PlacedGlyph
  | [] => []
  | token :: rest =>
    (Text.clusters token.plainText).map (PlacedGlyph.mk before) ++
      glyphsFrom (before ++ [token]) rest

/-- The glyphs are the clusters of the plain texts, each text by itself. -/
theorem map_text_glyphsFrom (before tokens : List Token) :
    (glyphsFrom before tokens).map PlacedGlyph.text =
      tokens.flatMap fun token => Text.clusters token.plainText := by
  induction tokens generalizing before with
  | nil => rfl
  | cons token rest ih =>
      rw [glyphsFrom, List.map_append, List.map_map, ih, List.flatMap_cons]
      congr 1
      exact List.map_id (Text.clusters token.plainText)

/-- A glyph with the formats that its place gives it. -/
def PlacedGlyph.styled (glyph : PlacedGlyph) : StyledGlyph :=
  ⟨formatsAfter glyph.before, glyph.text⟩

theorem styleFrom_glyphs_append (active : Formats) (texts : List (List Char))
    (rest : List Piece) :
    styleFrom active (texts.map Piece.glyph ++ rest) =
      texts.map (StyledGlyph.mk active) ++ styleFrom active rest := by
  induction texts with
  | nil => rfl
  | cons text texts ih => rw [List.map_cons, List.cons_append, styleFrom, ih]; rfl

/-- A token other than a span gives the clusters of its plain text, and the
formats after it to what follows. -/
theorem styleFrom_pieces_append {token : Token} (h : ∀ effect body, token ≠ .span effect body)
    (active : Formats) (rest : List Piece) :
    styleFrom active (token.pieces ++ rest) =
      (Text.clusters token.plainText).map (StyledGlyph.mk active) ++
        styleFrom (active.afterToken token) rest := by
  cases token with
  | text shown => exact styleFrom_glyphs_append active (Text.clusters shown) rest
  | code c =>
      rw [Token.pieces, Formats.afterToken, Token.codeKind?]
      cases CodeKind.of? c <;> rfl
  | color => rfl
  | span effect body => exact absurd rfl (h effect body)

theorem styleFrom_flatMap_pieces (before : List Token) {tokens : List Token}
    (h : ∀ token ∈ tokens, ∀ effect body, token ≠ .span effect body) :
    styleFrom (formatsAfter before) (tokens.flatMap Token.pieces) =
      (glyphsFrom before tokens).map PlacedGlyph.styled := by
  induction tokens generalizing before with
  | nil => rfl
  | cons token rest ih =>
      have hothers : ∀ other ∈ rest, ∀ effect body, other ≠ .span effect body :=
        fun other hother => h other (List.mem_cons_of_mem _ hother)
      have hrest := ih (before ++ [token]) hothers
      rw [formatsAfter_concat] at hrest
      rw [List.flatMap_cons, styleFrom_pieces_append (h token List.mem_cons_self), hrest,
        glyphsFrom, List.map_append, List.map_map]
      rfl

namespace Config

/-- The glyphs of a body, each with the tokens of the body before it. -/
def placedGlyphs (config : Config) (body : List Char) : List PlacedGlyph :=
  glyphsFrom [] (config.bodyTokens body)

/-- The glyphs of a body have the formats that their places give them. -/
theorem bodyGlyphs_eq (config : Config) (body : List Char) :
    config.bodyGlyphs body = (config.placedGlyphs body).map PlacedGlyph.styled := by
  rw [bodyGlyphs, styledGlyphs, bodyPieces, placedGlyphs]
  exact styleFrom_flatMap_pieces [] fun token htoken => ne_span_of_mem_bodyTokens htoken

/-- The glyphs of a body are the clusters of its plain texts, each text by
itself. -/
theorem map_text_bodyGlyphs (config : Config) (body : List Char) :
    (config.bodyGlyphs body).map StyledGlyph.text =
      (config.bodyTokens body).flatMap fun token => Text.clusters token.plainText := by
  rw [bodyGlyphs_eq, List.map_map, ← map_text_glyphsFrom []]
  rfl

/-- The glyphs of a body show its bare text. -/
theorem flatMap_text_bodyGlyphs (config : Config) (body : List Char) :
    (config.bodyGlyphs body).flatMap StyledGlyph.text = config.bodyText body := by
  calc
    (config.bodyGlyphs body).flatMap StyledGlyph.text
      = ((config.bodyGlyphs body).map StyledGlyph.text).flatten := List.flatMap_def
    _ = (config.bodyTokens body).flatMap fun token =>
          (Text.clusters token.plainText).flatMap id := by
      rw [map_text_bodyGlyphs, ← List.flatMap_id, List.flatMap_assoc]
    _ = config.bodyText body := by
      simp only [List.flatMap_id, Text.flatten_clusters]
      rfl

/-! ## Characters that are shown -/

/-- Plain text is a part of the text. -/
theorem mem_of_mem_plainText {config : Config} {text : List Char} {token : Token} {c : Char}
    (h : token ∈ config.tokens text) (hc : c ∈ token.plainText) : c ∈ text := by
  obtain ⟨piece, hreads, hpiece⟩ := exists_reads_of_mem_tokens h
  cases token with
  | text shown =>
      rw [hreads.text_eq] at hpiece
      exact hpiece.subset hc
  | code | color | span => cases hc

/-- The body of a span is a part of the text. -/
theorem mem_of_mem_body {config : Config} {text body : List Char} {effect : Effect} {c : Char}
    (h : .span effect body ∈ config.tokens text) (hc : c ∈ body) : c ∈ text := by
  obtain ⟨piece, hreads, hpiece⟩ := exists_reads_of_mem_tokens h
  obtain ⟨-, opening, closing, rfl⟩ := hreads.span_eq
  exact hpiece.subset (List.mem_append_left closing (List.mem_append_right opening hc))

/-- What a body shows is a part of it. -/
theorem mem_of_mem_bodyText {config : Config} {body : List Char} {c : Char}
    (hc : c ∈ config.bodyText body) : c ∈ body := by
  obtain ⟨token, htoken, hc⟩ := List.mem_flatMap.1 hc
  exact mem_of_mem_plainText htoken hc

/-- What a token shows is a part of the text. -/
theorem mem_of_mem_stripToken {config : Config} {text : List Char} {token : Token} {c : Char}
    (h : token ∈ config.tokens text) (hc : c ∈ config.stripToken token) : c ∈ text := by
  cases token with
  | text shown => exact mem_of_mem_plainText h hc
  | code | color => cases hc
  | span effect body => exact mem_of_mem_body h (mem_of_mem_bodyText hc)

end Config

end ColorMarkup
