import ColorMarkup.Proofs.Render.Body
import ColorMarkup.Proofs.Token.Precedence
import Mathlib.Data.List.TakeWhile

/-!
# ColorMarkup.Proofs.Render.Plain

Spans of plain text.  Scanning an open tag, a text and a close tag and then
painting the span gives what painting the text by itself gives.

1. A text without `<` and without markers is one token, if it is not empty
   (`Config.tokens_of_plain`), so its glyphs have no formats
   (`Config.bodyGlyphs_of_plain`).
2. No close tag starts in such a text (`EffectKind.staysOpen_of_not_mem`), so
   a tag in front of it and one behind it make it a span
   (`Config.tokens_span_append`).

`Config.transform_plain_span` puts these together for both kinds of effects.
-/

namespace ColorMarkup

/-! ## Plain text -/

namespace Config

/-- A text has neither `<` nor a marker. -/
structure IsPlain (config : Config) (text : List Char) : Prop where
  sign : '<' ∉ text
  marker : config.marker.char ∉ text
  alternate : config.alternate ∉ text

variable {config : Config} {text : List Char}

/-- Inside a span the same texts are plain. -/
theorem IsPlain.inline (h : config.IsPlain text) : config.inline.IsPlain text :=
  ⟨h.sign, h.marker, h.alternate⟩

theorem IsPlain.isSpecial (h : config.IsPlain text) {c : Char} (hc : c ∈ text) :
    config.isSpecial c = false := by
  have hsign : c ≠ '<' := ne_of_mem_of_not_mem hc h.sign
  have hmarker : c ≠ config.marker.char := ne_of_mem_of_not_mem hc h.marker
  have halternate : c ≠ config.alternate := ne_of_mem_of_not_mem hc h.alternate
  simp [Config.isSpecial, isMarker, hsign, hmarker, halternate]

/-- Where no character is special no markup is read. -/
theorem readMarkup?_eq_none {first : Char} {after : List Char}
    (h : config.isSpecial first = false) : config.readMarkup? first after = none := by
  cases hread : config.readMarkup? first after with
  | none => rfl
  | some reading =>
      obtain ⟨kind, -, hkind⟩ := List.exists_of_findSome?_eq_some hread
      obtain ⟨hon, hkind⟩ := readIfOn?_eq_some_iff.1 hkind
      rw [isSpecial_of_matches hon (matches_iff.2 ⟨reading, hkind⟩)] at h
      cases h

/-- A plain text is one token. -/
theorem tokens_of_plain (h : config.IsPlain text) (hne : text ≠ []) :
    config.tokens text = [.text text] := by
  obtain ⟨first, after, rfl⟩ := List.exists_cons_of_ne_nil hne
  have hall : ∀ c ∈ after, (!config.isSpecial c) = true := by
    intro c hc
    rw [h.isSpecial (List.mem_cons_of_mem first hc), Bool.not_false]
  have hnext : config.readNext first after = ⟨.text (first :: after), first :: after, []⟩ := by
    rw [readNext, readMarkup?_eq_none (h.isSpecial List.mem_cons_self), Option.getD_none,
      readPlain, List.takeWhile_eq_self_iff.2 hall, List.dropWhile_eq_nil_iff.2 hall]
  rw [tokens_cons, hnext, tokens_nil]

/-- The glyphs of a plain body have no formats. -/
theorem bodyGlyphs_of_plain {body : List Char} (h : config.IsPlain body) :
    config.bodyGlyphs body = plainGlyphs body := by
  by_cases hne : body = []
  · rw [hne, bodyGlyphs, bodyPieces, bodyTokens, tokens_nil]
    rfl
  · have hstyled := styleFrom_glyphs_append .empty (Text.clusters body) []
    rw [bodyGlyphs, bodyPieces, bodyTokens, tokens_of_plain h.inline hne, List.flatMap_singleton,
      styledGlyphs, Token.pieces, plainGlyphs]
    rwa [List.append_nil, styleFrom, List.append_nil] at hstyled

end Config

/-! ## Spans -/

/-- No close tag starts in a text without `<`. -/
theorem EffectKind.staysOpen_of_not_mem {body : List Char} (h : '<' ∉ body) (kind : EffectKind)
    (rest : List Char) : kind.StaysOpen body rest := by
  rintro before within rfl hne tag hmem hfront
  obtain ⟨name, rfl, -⟩ := exists_of_mem_closeTags hmem
  obtain ⟨c, within, rfl⟩ := List.exists_cons_of_ne_nil hne
  rw [List.cons_append, List.cons_prefix_cons] at hfront
  exact h (List.mem_append_right before (hfront.1 ▸ List.mem_cons_self))

namespace Config

variable {config : Config} {effect : Effect} {opening body closing : List Char}

/-- An effect that is on makes a span of a body between its tags. -/
theorem tokens_span_append (hon : config.tags.has effect.kind.tagKind = true)
    (hopening : Effect.readTag effect.kind opening = .ok ⟨effect, opening, []⟩)
    (hclosing : closing ∈ effect.kind.closeTags) (hfirst : (Token.span effect body).ClosesFirst)
    (rest : List Char) :
    config.tokens (opening ++ body ++ closing ++ rest) =
      .span effect body :: config.tokens rest := by
  have hspan := EffectKind.readSpan?_append hopening hclosing hfirst rest
  have hahead := Effect.ofText?_of_readTag
    (Effect.readTag_append hopening (body ++ (closing ++ rest)))
  have hne : opening ++ body ++ closing ++ rest ≠ [] := by
    simp [Effect.text_ne_nil_of_readTag hopening]
  simp only [← List.append_assoc] at hahead
  obtain ⟨first, after, htext⟩ := List.exists_cons_of_ne_nil hne
  rw [htext] at hspan hahead ⊢
  have hnext : config.readNext first after =
      ⟨.span effect body, opening ++ body ++ closing, rest⟩ := by
    rw [readNext_eq, effectAhead?_eq, hahead, Option.filter_some, if_pos hon, Option.bind_some,
      hspan, Option.getD_some]
  rw [tokens_cons, hnext]

/-- A span of plain text is painted like the text by itself. -/
theorem transform_append_plain (hon : config.tags.has effect.kind.tagKind = true)
    (hopening : Effect.readTag effect.kind opening = .ok ⟨effect, opening, []⟩)
    (hclosing : closing ∈ effect.kind.closeTags) (hplain : config.IsPlain body) :
    config.transform (opening ++ body ++ closing) = effect.paintText config.marker body := by
  have hfirst : (Token.span effect body).ClosesFirst := fun _ _ _ =>
    EffectKind.staysOpen_of_not_mem hplain.sign _ _
  have htokens := tokens_span_append hon hopening hclosing hfirst []
  rw [List.append_nil, tokens_nil] at htokens
  rw [transform, htokens, List.flatMap_singleton, renderToken, bodyGlyphs_of_plain hplain,
    Effect.paintText_eq]

/-- Markup of an open tag, a plain text and a close tag becomes what painting
the text by itself gives, for gradients and for rainbows. -/
theorem transform_plain_span (hplain : config.IsPlain body) :
    (config.tags.gradient = true → ∀ opening gradient,
      Gradient.readTag opening = .ok ⟨gradient, opening, []⟩ →
      ∀ closing ∈ EffectKind.gradient.closeTags,
        config.transform (opening ++ body ++ closing) =
          gradientText config.marker gradient.stops gradient.looping body) ∧
    (config.tags.rainbow = true → ∀ opening rainbow,
      Rainbow.readTag opening = .ok ⟨rainbow, opening, []⟩ →
      ∀ closing ∈ EffectKind.rainbow.closeTags,
        config.transform (opening ++ body ++ closing) = rainbow.paintText config.marker body) := by
  constructor
  · intro hon opening gradient hopening closing hclosing
    refine @transform_append_plain _ (.gradient gradient) _ _ _ hon ?_ hclosing hplain
    change Except.map _ (Gradient.readTag opening) = _
    rw [hopening]
    rfl
  · intro hon opening rainbow hopening closing hclosing
    refine @transform_append_plain _ (.rainbow rainbow) _ _ _ hon ?_ hclosing hplain
    change Except.map _ (Rainbow.readTag opening) = _
    rw [hopening]
    rfl

/-- Two units of a text, one of them a letter with its combining mark. -/
theorem transform_plain_span_pair :
    ({} : Config).transform "<g:#f00:#00f>e\u0301b</gradient>".toList =
        gradientText .sectionSign [⟨255, 0, 0⟩, ⟨0, 0, 255⟩] false "e\u0301b".toList ∧
      ({} : Config).transform "<rainbow:loop>e\u0301b</r>".toList =
        Rainbow.paintText { looping := true } .sectionSign "e\u0301b".toList ∧
      ({} : Config).transform "<g:#f00:#00f>e\u0301b</gradient>".toList =
        "§x§F§F§0§0§0§0e\u0301§x§0§0§0§0§F§Fb".toList := by
  have hplain : ({} : Config).IsPlain "e\u0301b".toList := ⟨by decide, by decide, by decide⟩
  obtain ⟨hgradient, hrainbow⟩ := transform_plain_span hplain
  refine ⟨?_, ?_, by decide +kernel⟩
  · exact hgradient rfl "<g:#f00:#00f>".toList ⟨[⟨255, 0, 0⟩, ⟨0, 0, 255⟩], 0, false⟩
      (by decide +kernel) "</gradient>".toList (by decide)
  · exact hrainbow rfl "<rainbow:loop>".toList { looping := true } (by decide)
      "</r>".toList (by decide)

end Config

end ColorMarkup
