import ColorMarkup.Proofs.Render.Body

/-!
# ColorMarkup.Proofs.Render.Erase

The output without its codes is the bare text.

1. `Marker.erase` drops every marker with the character after it.
2. `Marker.Shows` says of some output that this leaves a given text, whatever
   follows.  It holds of the parts that a renderer writes, of codes, escapes,
   glyphs and plain text, and passes on to what they are put together to.
3. Hence erasing the codes from the rendered markup gives what stripping it
   gives (`erase_transform`), for all markup in which the host's own marker
   does not occur.
-/

namespace ColorMarkup

namespace Marker

/-! ## Erasing codes -/

/-- Drops every marker with the character after it, from left to right. -/
def erase (marker : Marker) : List Char → List Char
  | [] => []
  | [c] => if c = marker.char then [] else [c]
  | c :: next :: rest =>
    if c = marker.char then marker.erase rest else c :: marker.erase (next :: rest)

/-- A code is dropped. -/
theorem erase_code_append (marker : Marker) (c : Char) (rest : List Char) :
    marker.erase (marker.code c ++ rest) = marker.erase rest := by
  change marker.erase (marker.char :: c :: rest) = _
  rw [erase, if_pos rfl]

/-- A character that is no marker stays. -/
theorem erase_cons_of_ne {marker : Marker} {c : Char} (h : c ≠ marker.char) (rest : List Char) :
    marker.erase (c :: rest) = c :: marker.erase rest := by
  cases rest with
  | nil => simp only [erase, if_neg h]
  | cons next rest => rw [erase, if_neg h]

/-! ## What is left of an output -/

/-- Without its codes an output is a given text, whatever follows it. -/
def Shows (marker : Marker) (output shown : List Char) : Prop :=
  ∀ rest, marker.erase (output ++ rest) = shown ++ marker.erase rest

variable {marker : Marker}

theorem shows_nil : marker.Shows [] [] := fun _ => rfl

theorem shows_code (c : Char) : marker.Shows (marker.code c) [] :=
  marker.erase_code_append c

/-- Text without markers is all shown. -/
theorem shows_of_notMem {text : List Char} (h : marker.char ∉ text) : marker.Shows text text := by
  intro rest
  induction text with
  | nil => rfl
  | cons c text ih =>
      rw [List.mem_cons, not_or] at h
      rw [List.cons_append, erase_cons_of_ne (Ne.symm h.1), ih h.2, List.cons_append]

theorem Shows.append {output output' shown shown' : List Char} (h : marker.Shows output shown)
    (h' : marker.Shows output' shown') : marker.Shows (output ++ output') (shown ++ shown') := by
  intro rest
  rw [List.append_assoc, h, h', List.append_assoc]

/-- What is written item by item shows what the items show. -/
theorem shows_flatMap {α : Type} {items : List α} {write shown : α → List Char}
    (h : ∀ item ∈ items, marker.Shows (write item) (shown item)) :
    marker.Shows (items.flatMap write) (items.flatMap shown) := by
  induction items with
  | nil => exact shows_nil
  | cons item items ih =>
      rw [List.flatMap_cons, List.flatMap_cons]
      have hitems : ∀ item ∈ items, marker.Shows (write item) (shown item) :=
        fun item hitem => h item (List.mem_cons_of_mem _ hitem)
      exact (h item List.mem_cons_self).append (ih hitems)

/-- A sequence of codes shows nothing. -/
theorem shows_codes (codes : List Char) : marker.Shows (codes.flatMap marker.code) [] := by
  have h : marker.Shows (codes.flatMap marker.code) (codes.flatMap fun _ => []) :=
    shows_flatMap fun c _ => shows_code c
  rwa [List.flatMap_eq_nil_iff.2 fun _ _ => rfl] at h

theorem Shows.erase_eq {output shown : List Char} (h : marker.Shows output shown) :
    marker.erase output = shown := by
  have hall := h []
  rwa [List.append_nil, erase, List.append_nil] at hall

end Marker

/-! ## Glyphs -/

/-- A glyph shows its text, without the codes of its formats. -/
theorem StyledGlyph.shows_toText {marker : Marker} {glyph : StyledGlyph}
    (h : marker.char ∉ glyph.text) : marker.Shows (glyph.toText marker) glyph.text := by
  have hglyph := (Marker.shows_codes glyph.formats.codes).append (Marker.shows_of_notMem h)
  rwa [List.nil_append] at hglyph

/-- Painted glyphs show their texts, whichever colors there are. -/
theorem shows_paint {marker : Marker} {glyphs : List StyledGlyph}
    (h : marker.char ∉ glyphs.flatMap StyledGlyph.text) (colors : List Color) :
    marker.Shows (paint marker colors glyphs) (glyphs.flatMap StyledGlyph.text) := by
  induction glyphs generalizing colors with
  | nil =>
      rw [paint]
      exact Marker.shows_nil
  | cons glyph glyphs ih =>
      rw [List.flatMap_cons, List.mem_append, not_or] at h
      rw [List.flatMap_cons]
      have hglyph := glyph.shows_toText h.1
      cases colors with
      | nil =>
          rw [paint]
          exact hglyph.append (ih h.2 [])
      | cons color colors =>
          rw [paint]
          have hescape : marker.Shows (marker.escape color) [] :=
            Marker.shows_codes ('x' :: color.hexDigits)
          exact (hescape.append hglyph).append (ih h.2 colors)

/-! ## Markup -/

namespace Config

/-- A rendered token shows what stripping leaves of it. -/
theorem shows_renderToken {config : Config} {text : List Char} {token : Token}
    (hmarker : config.marker.char ∉ text) (h : token ∈ config.tokens text) :
    config.marker.Shows (config.renderToken token) (config.stripToken token) := by
  have hshown : config.marker.char ∉ config.stripToken token :=
    fun hmem => hmarker (mem_of_mem_stripToken h hmem)
  cases token with
  | text shown => exact Marker.shows_of_notMem hshown
  | code c => exact Marker.shows_code c
  | color color => exact Marker.shows_codes ('x' :: color.hexDigits)
  | span effect body =>
      rw [stripToken, ← config.flatMap_text_bodyGlyphs body] at hshown ⊢
      exact shows_paint hshown (effect.colors (config.bodyGlyphs body).length)

/-- Erasing the codes from rendered markup gives what stripping it gives, if
the host's marker does not occur in the markup. -/
theorem erase_transform {config : Config} {text : List Char}
    (h : config.marker.char ∉ text) :
    config.marker.erase (config.transform text) = config.strip text := by
  have hshows : config.marker.Shows (config.transform text) (config.strip text) :=
    Marker.shows_flatMap fun _ htoken => shows_renderToken h htoken
  exact hshows.erase_eq

/-- Of a code, two colored glyphs, one of them in italics, and a shorthand the
letters are left. -/
theorem erase_transform_mixed :
    Marker.sectionSign.erase (({} : Config).transform "&la<g:#f00:#00f>b&oc</g><red>d".toList) =
      "abcd".toList := by
  have herase := @erase_transform {} "&la<g:#f00:#00f>b&oc</g><red>d".toList (by decide)
  have hstrip : ({} : Config).strip "&la<g:#f00:#00f>b&oc</g><red>d".toList = "abcd".toList := by
    decide +kernel
  exact herase.trans hstrip

end Config

end ColorMarkup
