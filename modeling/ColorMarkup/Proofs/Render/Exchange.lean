import ColorMarkup.Proofs.Code
import ColorMarkup.Proofs.Render.Body
import ColorMarkup.Proofs.Tag.Alphabet
import ColorMarkup.Proofs.Token.Agreement

/-!
# ColorMarkup.Proofs.Render.Exchange

The host's own marker is a mere sign in the output.

1. `Marker.exchange` puts another marker in the place of one.  Every part that
   a renderer writes with a marker becomes the part written with the other
   one, since no letter or digit that is written is a marker
   (`exchange_code`, `exchange_escape`, `exchange_paint`).
2. Configurations that differ in their own markers only agree on every text
   without those (`DifferInMarker.agreeOn`).
3. Hence their outputs differ in the markers only, and their bare texts do not
   differ at all (`transform_eq_exchange`).
-/

namespace ColorMarkup

namespace Marker

/-! ## Another marker in the output -/

/-- A text in which another marker stands wherever this one did. -/
def exchange (marker other : Marker) (text : List Char) : List Char :=
  text.map fun c => if c = marker.char then other.char else c

variable {marker other : Marker}

@[simp] theorem exchange_append (front back : List Char) :
    marker.exchange other (front ++ back) =
      marker.exchange other front ++ marker.exchange other back :=
  List.map_append

theorem exchange_flatMap {α : Type} (items : List α) (write : α → List Char) :
    marker.exchange other (items.flatMap write) =
      items.flatMap fun item => marker.exchange other (write item) :=
  List.map_flatMap

/-- Text without the marker stays. -/
theorem exchange_of_notMem {text : List Char} (h : marker.char ∉ text) :
    marker.exchange other text = text := by
  have hkeep : ∀ c ∈ text, (if c = marker.char then other.char else c) = id c := by
    intro c hc
    have hne : c ≠ marker.char := by
      rintro rfl
      exact h hc
    rw [if_neg hne, id]
  rw [exchange, List.map_congr_left hkeep, List.map_id]

/-- The marker is no letter and no digit. -/
def IsSign (marker : Marker) : Prop :=
  marker.char.isAlphanum = false

theorem exchange_code (hsign : marker.IsSign) {c : Char} (hc : c.isAlphanum = true) :
    marker.exchange other (marker.code c) = other.code c := by
  have hne : c ≠ marker.char := by
    rintro rfl
    rw [hsign] at hc
    cases hc
  simp [exchange, code, hne]

theorem exchange_codes (hsign : marker.IsSign) {codes : List Char}
    (h : ∀ c ∈ codes, c.isAlphanum = true) :
    marker.exchange other (codes.flatMap marker.code) = codes.flatMap other.code := by
  rw [exchange_flatMap]
  exact List.flatMap_congr fun c hc => exchange_code hsign (h c hc)

theorem exchange_escape (hsign : marker.IsSign) (color : Color) :
    marker.exchange other (marker.escape color) = other.escape color := by
  have hdigits : ∀ c ∈ 'x' :: color.hexDigits, c.isAlphanum = true :=
    List.forall_mem_cons.2 ⟨rfl, fun _ => Color.isAlphanum_of_mem_hexDigits⟩
  exact exchange_codes hsign hdigits

end Marker

/-! ## Glyphs -/

variable {marker other : Marker}

theorem StyledGlyph.exchange_toText (hsign : marker.IsSign) {glyph : StyledGlyph}
    (h : marker.char ∉ glyph.text) :
    marker.exchange other (glyph.toText marker) = glyph.toText other := by
  have hcodes : ∀ c ∈ glyph.formats.codes, c.isAlphanum = true := by
    intro c hc
    obtain ⟨format, -, rfl⟩ := List.mem_map.1 hc
    cases format <;> rfl
  simp [toText, Marker.exchange_codes hsign hcodes, Marker.exchange_of_notMem h]

/-- Painted glyphs are the same but for the marker, whichever colors there are. -/
theorem exchange_paint (hsign : marker.IsSign) {glyphs : List StyledGlyph}
    (h : ∀ glyph ∈ glyphs, marker.char ∉ glyph.text) (colors : List Color) :
    marker.exchange other (paint marker colors glyphs) = paint other colors glyphs := by
  induction glyphs generalizing colors with
  | nil => simp [paint, Marker.exchange]
  | cons glyph rest ih =>
      have hglyph : marker.exchange other (glyph.toText marker) = glyph.toText other :=
        glyph.exchange_toText hsign (h glyph List.mem_cons_self)
      have hrest := ih fun g hg => h g (List.mem_cons_of_mem glyph hg)
      cases colors with
      | nil => simp [paint, hglyph, hrest]
      | cons color colors => simp [paint, Marker.exchange_escape hsign, hglyph, hrest]

namespace Config

/-! ## Configurations that differ in their own markers -/

/-- The configurations differ at most in the markers that they write. -/
structure DifferInMarker (a b : Config) : Prop where
  alternate : a.alternate = b.alternate
  tags : a.tags = b.tags

variable {a b : Config} {text : List Char}

/-- A text without either marker does not tell the two apart. -/
theorem DifferInMarker.agreeOn (h : a.DifferInMarker b) (hfree : a.marker.char ∉ text)
    (hfree' : b.marker.char ∉ text) : a.AgreeOn b text where
  tags := h.tags
  isMarker c hc := by
    have hne : c ≠ a.marker.char := by
      rintro rfl
      exact hfree hc
    have hne' : c ≠ b.marker.char := by
      rintro rfl
      exact hfree' hc
    simp [isMarker, hne, hne', h.alternate]

/-! ## Output -/

theorem Valid.isSign_marker (hvalid : a.Valid) : a.marker.IsSign := by
  by_contra hsign
  exact hvalid.ne_marker (isReserved_of_isAlphanum (by simpa [Marker.IsSign] using hsign)) rfl

/-- A code that is read is a letter or a digit. -/
theorem isAlphanum_of_mem_tokens {c : Char} (h : .code c ∈ a.tokens text) :
    c.isAlphanum = true := by
  obtain ⟨piece, hreads, -⟩ := exists_reads_of_mem_tokens h
  cases hreads with
  | markup hon hspells hfirst =>
      cases hspells with
      | standard hmarker hcode => exact isAlphanum_of_isStandardCode hcode
      | shorthand hword =>
          rw [isAlphanum_toLower]
          exact hword.2 _ List.mem_cons_self

/-- The glyphs of a body are parts of it. -/
theorem mem_of_mem_bodyGlyphs {body : List Char} {glyph : StyledGlyph} {c : Char}
    (hglyph : glyph ∈ a.bodyGlyphs body) (hc : c ∈ glyph.text) : c ∈ body := by
  have hshown : c ∈ (a.bodyGlyphs body).flatMap StyledGlyph.text :=
    List.mem_flatMap.2 ⟨glyph, hglyph, hc⟩
  rw [flatMap_text_bodyGlyphs] at hshown
  exact mem_of_mem_bodyText hshown

theorem AgreeOn.bodyGlyphs_eq {body : List Char} (h : a.AgreeOn b body) :
    a.bodyGlyphs body = b.bodyGlyphs body := by
  rw [bodyGlyphs, bodyGlyphs, bodyPieces, bodyPieces, h.bodyTokens_eq]

/-- A token becomes the same but for the marker. -/
theorem renderToken_eq_exchange (hvalid : a.Valid) (h : a.AgreeOn b text)
    (hfree : a.marker.char ∉ text) {token : Token} (htoken : token ∈ a.tokens text) :
    b.renderToken token = a.marker.exchange b.marker (a.renderToken token) := by
  have hsign := hvalid.isSign_marker
  cases token with
  | text shown =>
      have hshown : a.marker.char ∉ shown := fun hmem => hfree (mem_of_mem_plainText htoken hmem)
      exact (Marker.exchange_of_notMem hshown).symm
  | code c => exact (Marker.exchange_code hsign (isAlphanum_of_mem_tokens htoken)).symm
  | color color => exact (Marker.exchange_escape hsign color).symm
  | span effect body =>
      have hbody : body ⊆ text := fun c hc => mem_of_mem_body htoken hc
      have hglyphs : ∀ glyph ∈ a.bodyGlyphs body, a.marker.char ∉ glyph.text :=
        fun glyph hglyph hmem => hfree (hbody (mem_of_mem_bodyGlyphs hglyph hmem))
      rw [renderToken, renderToken, Effect.paint, Effect.paint, ← (h.mono hbody).bodyGlyphs_eq]
      exact (exchange_paint hsign hglyphs _).symm

/-- A token shows the same text. -/
theorem AgreeOn.stripToken_eq (h : a.AgreeOn b text) {token : Token}
    (htoken : token ∈ a.tokens text) : a.stripToken token = b.stripToken token := by
  cases token with
  | text | code | color => rfl
  | span effect body =>
      have hbody : body ⊆ text := fun c hc => mem_of_mem_body htoken hc
      simp only [stripToken, bodyText, (h.mono hbody).bodyTokens_eq]

/-- Of a text without the markers of two configurations that differ in nothing
else, the outputs are the same but for the marker, and the bare texts are the
same.  For this the second configuration need not be valid. -/
theorem transform_eq_exchange (hvalid : a.Valid) (h : a.DifferInMarker b)
    (hfree : a.marker.char ∉ text) (hfree' : b.marker.char ∉ text) :
    b.transform text = a.marker.exchange b.marker (a.transform text) ∧
      b.strip text = a.strip text := by
  have hagree := h.agreeOn hfree hfree'
  constructor
  · rw [transform, transform, ← hagree.tokens_eq, Marker.exchange_flatMap]
    exact List.flatMap_congr fun token => renderToken_eq_exchange hvalid hagree hfree
  · rw [strip, strip, ← hagree.tokens_eq]
    exact (List.flatMap_congr fun token => hagree.stripToken_eq).symm

/-- With a dollar for its marker a host gets a code, an escape and a format of
a glyph as it would with the default marker. -/
theorem transform_eq_exchange_dollar :
    ({ marker := ⟨'$'⟩ } : Config).transform "&la<r>&ob</r>".toList =
      "$la$x$F$F$0$0$0$0$ob".toList := by
  have hdiffer : ({} : Config).DifferInMarker { marker := ⟨'$'⟩ } := ⟨rfl, rfl⟩
  have hexchange := transform_eq_exchange valid_default hdiffer
    (show '§' ∉ "&la<r>&ob</r>".toList by decide) (show '$' ∉ "&la<r>&ob</r>".toList by decide)
  have houtput : ({} : Config).transform "&la<r>&ob</r>".toList =
      "§la§x§F§F§0§0§0§0§ob".toList := by decide +kernel
  rw [hexchange.1, houtput]
  decide

end Config

end ColorMarkup
