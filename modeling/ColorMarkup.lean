import ColorMarkup.Binary32.Arithmetic
import ColorMarkup.Binary32.Basic
import ColorMarkup.Binary32.Rounding
import ColorMarkup.Code
import ColorMarkup.Color.Basic
import ColorMarkup.Color.Blend
import ColorMarkup.Color.Hex
import ColorMarkup.Color.Hsb
import ColorMarkup.Config
import ColorMarkup.Effect.Basic
import ColorMarkup.Effect.Colors
import ColorMarkup.Effect.Gradient
import ColorMarkup.Effect.Rainbow
import ColorMarkup.Glyph
import ColorMarkup.Marker
import ColorMarkup.Proofs.Binary32.Arithmetic
import ColorMarkup.Proofs.Binary32.Cycle
import ColorMarkup.Proofs.Binary32.Error
import ColorMarkup.Proofs.Binary32.Order
import ColorMarkup.Proofs.Binary32.Rounded
import ColorMarkup.Proofs.Binary32.Rounding
import ColorMarkup.Proofs.Binary32.Unit
import ColorMarkup.Proofs.Code
import ColorMarkup.Proofs.Color.Blend
import ColorMarkup.Proofs.Color.Channel
import ColorMarkup.Proofs.Color.Hex
import ColorMarkup.Proofs.Color.Hsb
import ColorMarkup.Proofs.Color.HueArc
import ColorMarkup.Proofs.Color.Refusal
import ColorMarkup.Proofs.Color.Written
import ColorMarkup.Proofs.Effect.Gradient
import ColorMarkup.Proofs.Effect.GradientStops
import ColorMarkup.Proofs.Effect.Rainbow
import ColorMarkup.Proofs.Effect.Share
import ColorMarkup.Proofs.Render.Body
import ColorMarkup.Proofs.Render.ColorTag
import ColorMarkup.Proofs.Render.Echo
import ColorMarkup.Proofs.Render.Erase
import ColorMarkup.Proofs.Render.Exchange
import ColorMarkup.Proofs.Render.Plain
import ColorMarkup.Proofs.Render.Settled
import ColorMarkup.Proofs.Render.Span
import ColorMarkup.Proofs.Render.Standard
import ColorMarkup.Proofs.Render.Units
import ColorMarkup.Proofs.Tag.Alphabet
import ColorMarkup.Proofs.Tag.Bracket
import ColorMarkup.Proofs.Tag.Effect
import ColorMarkup.Proofs.Tag.Gradient
import ColorMarkup.Proofs.Tag.GradientGrammar
import ColorMarkup.Proofs.Tag.Inline
import ColorMarkup.Proofs.Tag.Number
import ColorMarkup.Proofs.Tag.Part
import ColorMarkup.Proofs.Tag.Rainbow
import ColorMarkup.Proofs.Tag.RainbowGrammar
import ColorMarkup.Proofs.Text.Ascii
import ColorMarkup.Proofs.Text.Cluster
import ColorMarkup.Proofs.Token.Agreement
import ColorMarkup.Proofs.Token.Boundary
import ColorMarkup.Proofs.Token.CloseMemo
import ColorMarkup.Proofs.Token.CloseTag
import ColorMarkup.Proofs.Token.Lossless
import ColorMarkup.Proofs.Token.Precedence
import ColorMarkup.Proofs.Token.Scanner
import ColorMarkup.Proofs.Token.Spelling
import ColorMarkup.Proofs.Token.TagOrder
import ColorMarkup.Render
import ColorMarkup.Renderer
import ColorMarkup.Tag.Basic
import ColorMarkup.Tag.Effect
import ColorMarkup.Tag.Gradient
import ColorMarkup.Tag.Inline
import ColorMarkup.Tag.Part
import ColorMarkup.Tag.Rainbow
import ColorMarkup.TagKinds
import ColorMarkup.Text.Alphanumeric
import ColorMarkup.Text.Basic
import ColorMarkup.Text.Blank
import ColorMarkup.Text.Cluster
import ColorMarkup.Text.ClusterClass
import ColorMarkup.Text.Extender
import ColorMarkup.Text.Ignorable
import ColorMarkup.Text.Printable
import ColorMarkup.Text.Quoted
import ColorMarkup.Text.Ranges
import ColorMarkup.Token.Basic
import ColorMarkup.Token.CloseTag
import ColorMarkup.Token.Note
import ColorMarkup.Token.Scanner
