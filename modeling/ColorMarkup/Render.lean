import ColorMarkup.Glyph
import ColorMarkup.Token.Scanner

/-!
# ColorMarkup.Render

What becomes of markup.

1. `Config.transform` writes it in the codes of the host.  Text stays, codes
   take the native marker, and a span is painted in the colors of its effect.
2. `Config.strip` keeps only the text that a reader sees.
3. `Config.notes` tells what happened to effect tags on the way.

None of them fails: what is no markup is text.
-/

namespace ColorMarkup

/-! ## Bodies -/

/-- The pieces that a token of a body gives.  Codes that the host does not
know and colors give none, since the effect chooses the colors. -/
def Token.pieces : Token → List Piece
  | .text shown => (Text.clusters shown).map .glyph
  | .code c => (CodeKind.of? c).toList.map .code
  | .color _ => []
  | .span _ body => (Text.clusters body).map .glyph

namespace Config

/-- The pieces of a body. -/
def bodyPieces (config : Config) (body : List Char) : List Piece :=
  (config.bodyTokens body).flatMap Token.pieces

/-- The glyphs of a body with their formats. -/
def bodyGlyphs (config : Config) (body : List Char) : List StyledGlyph :=
  styledGlyphs (config.bodyPieces body)

/-- The text of a body that a reader sees. -/
def bodyText (config : Config) (body : List Char) : List Char :=
  (config.bodyTokens body).flatMap Token.plainText

/-! ## Rendering -/

/-- A token in the codes of the host. -/
def renderToken (config : Config) : Token → List Char
  | .text shown => shown
  | .code code => config.marker.code code
  | .color color => config.marker.escape color
  | .span effect body => effect.paint config.marker (config.bodyGlyphs body)

/-- Markup in the codes of the host. -/
def transform (config : Config) (text : List Char) : List Char :=
  (config.tokens text).flatMap config.renderToken

/-- The text of a token that a reader sees. -/
def stripToken (config : Config) : Token → List Char
  | .text shown => shown
  | .code _ => []
  | .color _ => []
  | .span _ body => config.bodyText body

/-- Markup without its tags and codes. -/
def strip (config : Config) (text : List Char) : List Char :=
  (config.tokens text).flatMap config.stripToken

/-- The outputs of rendering a text, then its output, and so on, a number of
times. -/
def transforms (config : Config) : Nat → List Char → List (List Char)
  | 0, _ => []
  | times + 1, text =>
    let output := config.transform text
    output :: config.transforms times output

/-! ## Notes -/

/-- The note for painting a token. -/
def paintNote? (config : Config) : Token → Option Note
  | .span effect body => some (.painted effect.kind (config.bodyGlyphs body).length)
  | _ => none

/-- The notes of rendering a text, in order. -/
def notes (config : Config) (text : List Char) : List Note :=
  (config.scan text).flatMap fun item =>
    item.note.toList ++ (config.paintNote? item.token).toList

end Config

end ColorMarkup
