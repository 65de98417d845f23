import ColorMarkup.Proofs.Code
import ColorMarkup.Proofs.Render.Body
import Mathlib.Data.List.Induction

/-!
# ColorMarkup.Proofs.Render.Span

What becomes of a span.

1. The formats of a glyph are those in force at its place: some code before it
   names the format, and none after that code resets
   (`contains_formatsAfter_iff`).
2. Every effect that can be asked for has one color for each glyph
   (`Effect.length_colors_of_readTag`).
3. Hence a span becomes, glyph by glyph, the escape of a color, the codes of
   the formats in force and the glyph (`Config.transform_span`).
-/

namespace ColorMarkup

/-! ## Formats in force -/

namespace Token

/-- The token is the code of a format, in either case. -/
def Names (token : Token) (format : Format) : Prop :=
  ∃ code, token = .code code ∧ code.toLower = format.code

/-- The token is the code that resets all formats, in either case. -/
def Resets (token : Token) : Prop :=
  ∃ code, token = .code code ∧ code.toLower = 'r'

theorem names_iff {token : Token} {format : Format} :
    token.Names format ↔ token.codeKind? = some (.format format) := by
  cases token with
  | code c => simp [Names, codeKind?, CodeKind.of?_eq_format_iff]
  | text | color | span => simp [Names, codeKind?]

theorem resets_iff {token : Token} : token.Resets ↔ token.codeKind? = some .reset := by
  cases token with
  | code c => simp [Resets, codeKind?, CodeKind.of?_eq_reset_iff]
  | text | color | span => simp [Resets, codeKind?]

end Token

/-- One of the tokens names the format, and none after it resets. -/
def InForce (tokens : List Token) (format : Format) : Prop :=
  ∃ front token back, tokens = front ++ token :: back ∧ token.Names format ∧
    ∀ later ∈ back, ¬ later.Resets

theorem not_inForce_nil (format : Format) : ¬ InForce [] format := by
  rintro ⟨front, token, back, htokens, -⟩
  simp at htokens

/-- One more token names the format, or it was in force before and the token
does not reset. -/
theorem inForce_concat_iff {tokens : List Token} {token : Token} {format : Format} :
    InForce (tokens ++ [token]) format ↔
      token.Names format ∨ InForce tokens format ∧ ¬ token.Resets := by
  constructor
  · rintro ⟨front, naming, back, htokens, hnames, hback⟩
    rcases List.eq_nil_or_concat' back with rfl | ⟨back, last, rfl⟩
    · obtain ⟨-, hlast⟩ := List.append_inj' htokens rfl
      cases hlast
      exact .inl hnames
    · rw [← List.cons_append, ← List.append_assoc] at htokens
      obtain ⟨rfl, hlast⟩ := List.append_inj' htokens rfl
      cases hlast
      refine .inr ⟨⟨front, naming, back, rfl, hnames, ?_⟩, hback _ (by simp)⟩
      exact fun later hlater => hback later (List.mem_append_left _ hlater)
  · rintro (hnames | ⟨⟨front, naming, back, rfl, hnames, hback⟩, hkeeps⟩)
    · exact ⟨tokens, token, [], rfl, hnames, by simp⟩
    · -- The same token names it, with one more token behind that does not reset.
      refine ⟨front, naming, back ++ [token], by simp, hnames, ?_⟩
      intro later hlater
      rcases List.mem_append.1 hlater with hlater | hlater
      · exact hback later hlater
      · rw [List.mem_singleton.1 hlater]
        exact hkeeps

theorem contains_afterToken_iff {active : Formats} {token : Token} {format : Format} :
    (active.afterToken token).contains format = true ↔
      token.Names format ∨ active.contains format = true ∧ ¬ token.Resets := by
  rw [Token.names_iff, Token.resets_iff, Formats.afterToken]
  cases token.codeKind? with
  | none => simp
  | some kind =>
      cases kind with
      | color => simp [Formats.after]
      | format added =>
          rw [Option.elim_some, Formats.after, Formats.contains_insert]
          grind
      | reset => simp [Formats.after]

/-- The formats that are on are those in force. -/
theorem contains_formatsAfter_iff {tokens : List Token} {format : Format} :
    (formatsAfter tokens).contains format = true ↔ InForce tokens format := by
  induction tokens using List.reverseRecOn with
  | nil =>
      rw [formatsAfter, List.foldl_nil, Formats.contains_empty]
      simp [not_inForce_nil]
  | append_singleton tokens token ih =>
      rw [formatsAfter_concat, contains_afterToken_iff, inForce_concat_iff, ih]

instance (tokens : List Token) (format : Format) : Decidable (InForce tokens format) :=
  decidable_of_iff _ contains_formatsAfter_iff

/-- The formats that its place gives a glyph, in the order of their codes. -/
def PlacedGlyph.formats (glyph : PlacedGlyph) : List Format :=
  Format.all.filter fun format => InForce glyph.before format

/-- The glyph with its formats. -/
def PlacedGlyph.face (glyph : PlacedGlyph) : List Format × List Char :=
  (glyph.formats, glyph.text)

theorem PlacedGlyph.formats_eq (glyph : PlacedGlyph) :
    glyph.formats = (formatsAfter glyph.before).toList := by
  apply List.filter_congr
  intro format _
  rw [Bool.eq_iff_iff, decide_eq_true_eq, contains_formatsAfter_iff]

/-! ## Silent tokens -/

/-- The token is a color, or a code that neither names a format nor resets. -/
inductive Token.IsSilent : Token → Prop
  | color (color : Color) : IsSilent (.color color)
  | code {code : Char} (hformat : ∀ format : Format, code.toLower ≠ format.code)
      (hreset : code.toLower ≠ 'r') : IsSilent (.code code)

theorem Token.IsSilent.afterToken {token : Token} (h : token.IsSilent) (active : Formats) :
    active.afterToken token = active := by
  cases h with
  | color => rfl
  | @code code hformat hreset =>
      rw [Formats.afterToken, codeKind?]
      cases hkind : CodeKind.of? code with
      | none => rfl
      | some kind =>
          cases kind with
          | color => rfl
          | format format => exact absurd (CodeKind.of?_eq_format_iff.1 hkind) (hformat format)
          | reset => exact absurd (CodeKind.of?_eq_reset_iff.1 hkind) hreset

theorem Token.IsSilent.plainText {token : Token} (h : token.IsSilent) : token.plainText = [] := by
  cases h <;> rfl

theorem glyphsFrom_append (before front back : List Token) :
    glyphsFrom before (front ++ back) =
      glyphsFrom before front ++ glyphsFrom (before ++ front) back := by
  induction front generalizing before with
  | nil => simp [glyphsFrom]
  | cons token front ih =>
      rw [List.cons_append, glyphsFrom, ih, glyphsFrom, List.append_assoc, List.append_assoc]
      rfl

/-- Glyphs look the same behind other tokens that leave the same formats. -/
theorem map_face_glyphsFrom_congr {before before' : List Token}
    (h : formatsAfter before = formatsAfter before') (tokens : List Token) :
    (glyphsFrom before tokens).map PlacedGlyph.face =
      (glyphsFrom before' tokens).map PlacedGlyph.face := by
  induction tokens generalizing before before' with
  | nil => rfl
  | cons token rest ih =>
      have hnext : formatsAfter (before ++ [token]) = formatsAfter (before' ++ [token]) := by
        rw [formatsAfter_concat, formatsAfter_concat, h]
      rw [glyphsFrom, glyphsFrom, List.map_append, List.map_append, ih hnext, List.map_map,
        List.map_map]
      congr 1
      apply List.map_congr_left
      intro text _
      simp only [Function.comp, PlacedGlyph.face, PlacedGlyph.formats_eq, h]

/-- Without a silent token the glyphs look the same. -/
theorem Token.IsSilent.map_face_glyphsFrom {token : Token} (h : token.IsSilent)
    (before front back : List Token) :
    (glyphsFrom before (front ++ token :: back)).map PlacedGlyph.face =
      (glyphsFrom before (front ++ back)).map PlacedGlyph.face := by
  have hformats : formatsAfter (before ++ front ++ [token]) = formatsAfter (before ++ front) := by
    rw [formatsAfter_concat, h.afterToken]
  rw [glyphsFrom_append, glyphsFrom_append, glyphsFrom, h.plainText, List.map_append,
    List.map_append, List.map_append, map_face_glyphsFrom_congr hformats]
  rfl

/-! ## Colors -/

theorem eq_nil_of_mapM_eq_ok {α β ε : Type} {f : α → Except ε β} {items : List α}
    (h : items.mapM f = .ok []) : items = [] := by
  cases items with
  | nil => rfl
  | cons item items =>
      simp only [List.mapM_cons, bind, Except.bind, pure, Except.pure] at h
      split at h
      · cases h
      · split at h <;> cases h

/-- A gradient that a tag asks for has stops. -/
theorem GradientTag.stops_ne_nil {tag : GradientTag} {gradient : Gradient}
    (h : tag.gradient = .ok gradient) : gradient.stops ≠ [] := by
  unfold GradientTag.gradient at h
  simp only [bind, Except.bind, pure, Except.pure] at h
  split at h
  · cases h
  · rename_i hlength
    cases hstops : tag.stops.mapM Color.ofHex with
    | error error => simp [hstops, Except.mapError] at h
    | ok stops =>
        simp only [hstops, Except.mapError] at h
        split at h
        · cases h
        · cases h
          rintro rfl
          rw [eq_nil_of_mapM_eq_ok hstops] at hlength
          simp at hlength

/-- An effect that is asked for has one color for each unit. -/
theorem Effect.length_colors_of_readTag {kind : EffectKind} {text : List Char}
    {reading : Reading Effect} (h : readTag kind text = .ok reading) (length : Nat) :
    (reading.value.colors length).length = length := by
  cases kind with
  | gradient =>
      obtain ⟨r, hread, rfl⟩ := exists_of_map_eq_ok h
      obtain ⟨tag, -, hgradient, -⟩ := Gradient.readTag_eq_ok_iff.1 hread
      exact length_gradientColors length (GradientTag.stops_ne_nil hgradient) _
  | rainbow =>
      obtain ⟨r, -, rfl⟩ := exists_of_map_eq_ok h
      exact Rainbow.length_colors r.value length

namespace Config

theorem length_colors_of_mem_tokens {config : Config} {text body : List Char} {effect : Effect}
    (h : .span effect body ∈ config.tokens text) (length : Nat) :
    (effect.colors length).length = length := by
  obtain ⟨piece, hreads, -⟩ := exists_reads_of_mem_tokens h
  cases hreads with
  | markup hon hspells hfirst =>
      cases hspells with
      | span hkind hopening hclosing => exact Effect.length_colors_of_readTag hopening length

end Config

/-! ## Painting -/

/-- A glyph as it is written in a color. -/
def PlacedGlyph.toText (marker : Marker) (color : Color) (glyph : PlacedGlyph) : List Char :=
  marker.escape color ++ glyph.formats.flatMap (fun format => marker.code format.code) ++ glyph.text

theorem PlacedGlyph.toText_eq (marker : Marker) (color : Color) (glyph : PlacedGlyph) :
    glyph.toText marker color = marker.escape color ++ glyph.styled.toText marker := by
  rw [toText, formats_eq, styled, StyledGlyph.toText, Formats.codes, List.flatMap_map,
    List.append_assoc]

/-- With a color for each glyph, painting writes each glyph in its color. -/
theorem paint_map_styled {marker : Marker} {colors : List Color} {glyphs : List PlacedGlyph}
    (h : colors.length = glyphs.length) :
    paint marker colors (glyphs.map PlacedGlyph.styled) =
      (List.zipWith (PlacedGlyph.toText marker) colors glyphs).flatten := by
  induction glyphs generalizing colors with
  | nil =>
      rw [List.zipWith_nil_right]
      rfl
  | cons glyph glyphs ih =>
      cases colors with
      | nil => cases h
      | cons color colors =>
          rw [List.map_cons, paint, ih (Nat.succ.inj h), List.zipWith_cons_cons, List.flatten_cons,
            PlacedGlyph.toText_eq]

namespace Config

theorem renderToken_span {config : Config} {effect : Effect} {body : List Char}
    (h : ∀ length, (effect.colors length).length = length) :
    config.renderToken (.span effect body) =
      (List.zipWith (PlacedGlyph.toText config.marker)
        (effect.colors (config.placedGlyphs body).length) (config.placedGlyphs body)).flatten := by
  rw [renderToken, Effect.paint, bodyGlyphs_eq, List.length_map, paint_map_styled (h _)]

/-- A span becomes, glyph by glyph, the escape of a color, the codes of the
formats in force and the glyph.  There is a color for each glyph and no other,
the glyphs are the clusters of the plain texts of the body, and silent tokens
of the body change nothing. -/
theorem transform_span {config : Config} {text body : List Char} {effect : Effect}
    {front back : List Token} (h : config.tokens text = front ++ .span effect body :: back) :
    (∀ length, (effect.colors length).length = length) ∧
    (config.placedGlyphs body).map PlacedGlyph.text =
      (config.bodyTokens body).flatMap (fun token => Text.clusters token.plainText) ∧
    config.transform text = front.flatMap config.renderToken ++
      (List.zipWith (PlacedGlyph.toText config.marker)
        (effect.colors (config.placedGlyphs body).length) (config.placedGlyphs body)).flatten ++
      back.flatMap config.renderToken ∧
    ∀ before token after, config.bodyTokens body = before ++ token :: after → token.IsSilent →
      (config.placedGlyphs body).map PlacedGlyph.face =
        (glyphsFrom [] (before ++ after)).map PlacedGlyph.face := by
  have hmem : .span effect body ∈ config.tokens text := by simp [h]
  have hcolors := length_colors_of_mem_tokens hmem
  refine ⟨hcolors, map_text_glyphsFrom [] _, ?_, ?_⟩
  · rw [transform, h, List.flatMap_append, List.flatMap_cons, renderToken_span hcolors,
      List.append_assoc]
  · intro before token after htokens hsilent
    rw [placedGlyphs, htokens]
    exact hsilent.map_face_glyphsFrom [] before after

/-- The second of two glyphs is bold, whatever color its own code asks for. -/
theorem transform_span_bold : ({} : Config).transform "<g:#f00:#00f>a&l&2b</g>c".toList =
    "§x§F§F§0§0§0§0a§x§0§0§0§0§F§F§lbc".toList := by
  have htokens : ({} : Config).tokens "<g:#f00:#00f>a&l&2b</g>c".toList =
      [] ++ .span (.gradient ⟨[⟨255, 0, 0⟩, ⟨0, 0, 255⟩], 0, false⟩) "a&l&2b".toList ::
        [.text ['c']] := by decide +kernel
  obtain ⟨-, -, htransform, -⟩ := transform_span htokens
  rw [htransform]
  decide +kernel

end Config

end ColorMarkup
