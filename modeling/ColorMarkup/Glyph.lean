import ColorMarkup.Code
import ColorMarkup.Effect.Colors
import ColorMarkup.Marker
import ColorMarkup.Text.Cluster

/-!
# ColorMarkup.Glyph

Glyphs are the units over which an effect is spread: the clusters of the text
that a reader sees.

1. A body is a sequence of glyphs and codes.  A format stays on for the glyphs
   after it until it is reset (`styledGlyphs`).
2. Every glyph is written as the escape of its color, the codes of its formats
   and its text (`paint`).  Escapes are never merged, since a color also ends
   the formats of the glyph before.
3. A text without any markup is painted as it stands (`Effect.paintText`).
-/

namespace ColorMarkup

/-- A part of a body. -/
inductive Piece where
  | glyph (text : List Char)
  | code (kind : CodeKind)
deriving DecidableEq, Repr

/-- A glyph with the formats that are on. -/
structure StyledGlyph where
  formats : Formats
  text : List Char
deriving DecidableEq, Repr

/-- The glyphs of a body with their formats, given the formats that are on at
its start. -/
def styleFrom (active : Formats) : List Piece → List StyledGlyph
  | [] => []
  | .glyph text :: rest => ⟨active, text⟩ :: styleFrom active rest
  | .code kind :: rest => styleFrom (active.after kind) rest

/-- The glyphs of a body with their formats. -/
def styledGlyphs (pieces : List Piece) : List StyledGlyph :=
  styleFrom .empty pieces

/-- The glyphs of a text without any codes. -/
def plainGlyphs (text : List Char) : List StyledGlyph :=
  (Text.clusters text).map fun cluster => ⟨.empty, cluster⟩

/-- A glyph as it is written after its color. -/
def StyledGlyph.toText (marker : Marker) (glyph : StyledGlyph) : List Char :=
  glyph.formats.codes.flatMap marker.code ++ glyph.text

/-- Writes glyphs, each in the next color; when the colors have run out,
glyphs are written without one. -/
def paint (marker : Marker) : List Color → List StyledGlyph → List Char
  | _, [] => []
  | [], glyph :: rest => glyph.toText marker ++ paint marker [] rest
  | color :: colors, glyph :: rest =>
    marker.escape color ++ glyph.toText marker ++ paint marker colors rest

/-- Spreads an effect over glyphs. -/
def Effect.paint (effect : Effect) (marker : Marker) (glyphs : List StyledGlyph) : List Char :=
  ColorMarkup.paint marker (effect.colors glyphs.length) glyphs

/-! ## Texts without any markup -/

/-- Spreads a gradient over a text without any markup.  Without stops the text
stays as it is. -/
def gradientText (marker : Marker) (stops : List Color) (looping : Bool) (text : List Char) :
    List Char :=
  if text.isEmpty || stops.isEmpty then text
  else
    let glyphs := plainGlyphs text
    ColorMarkup.paint marker (gradientColors glyphs.length stops looping) glyphs

/-- Spreads a rainbow over a text without any markup. -/
def Rainbow.paintText (rainbow : Rainbow) (marker : Marker) (text : List Char) : List Char :=
  if text.isEmpty then []
  else
    let glyphs := plainGlyphs text
    ColorMarkup.paint marker (rainbow.colors glyphs.length) glyphs

/-- Spreads an effect over a text without any markup. -/
def Effect.paintText (effect : Effect) (marker : Marker) (text : List Char) : List Char :=
  match effect with
  | .gradient g => gradientText marker g.stops g.looping text
  | .rainbow r => r.paintText marker text

theorem paint_plainGlyphs_nil (marker : Marker) (text : List Char) :
    ColorMarkup.paint marker [] (plainGlyphs text) = text := by
  have h : ∀ clusters : List (List Char),
      ColorMarkup.paint marker [] (clusters.map fun cluster => ⟨.empty, cluster⟩) =
        clusters.flatten := by
    intro clusters
    induction clusters with
    | nil => rfl
    | cons cluster rest ih =>
      rw [List.map_cons, ColorMarkup.paint, ih]
      rfl
  rw [plainGlyphs, h, Text.flatten_clusters]

/-- The texts that are not painted are those that painting leaves as they
are. -/
theorem Effect.paintText_eq (effect : Effect) (marker : Marker) (text : List Char) :
    effect.paintText marker text = effect.paint marker (plainGlyphs text) := by
  match effect, text with
  | .gradient _, [] | .rainbow _, [] => rfl
  | .rainbow _, _ :: _ => rfl
  | .gradient ⟨[], _, _⟩, c :: rest => exact (paint_plainGlyphs_nil marker (c :: rest)).symm
  | .gradient ⟨_ :: _, _, _⟩, _ :: _ => rfl

end ColorMarkup
