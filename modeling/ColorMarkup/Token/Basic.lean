import ColorMarkup.Code
import ColorMarkup.Config
import ColorMarkup.Tag.Effect
import ColorMarkup.Tag.Inline

/-!
# ColorMarkup.Token.Basic

Tokens are what markup consists of, and this module finds the tokens that
need no close tag: a color tag, a shorthand tag, a standard code, or else
plain text.  Plain text runs up to the next character that could start a
token; a character that could but does not starts a text of its own.
-/

namespace ColorMarkup

/-- A piece of markup. -/
inductive Token where
  /-- Text that stands for itself. -/
  | text (text : List Char)
  /-- A code, by its character alone. -/
  | code (code : Char)
  /-- A color tag. -/
  | color (color : Color)
  /-- An effect over a body. -/
  | span (effect : Effect) (body : List Char)
deriving DecidableEq, Repr

/-- The text that a token shows by itself. -/
def Token.plainText : Token → List Char
  | .text shown => shown
  | _ => []

namespace Config

/-- Whether any kind of tag is read. -/
def readsTags (config : Config) : Bool :=
  config.tags.intersects (TagKinds.all.diff (.only .standard))

/-- Whether a token other than text could start with a character. -/
def isSpecial (config : Config) (c : Char) : Bool :=
  (c = '<' && config.readsTags) || (config.tags.standard && config.isMarker c)

/-- Reads a tag that stands alone. -/
def readInlineTag? (config : Config) (text : List Char) : Option (Reading Token) :=
  match if config.tags.hex then Color.readTag text else none with
  | some reading => some ⟨.color reading.value, reading.text, reading.rest⟩
  | none =>
    match if config.tags.shorthand then readShorthand text else none with
    | some reading => some ⟨.code reading.value, reading.text, reading.rest⟩
    | none => none

/-- Reads a marker and a standard code. -/
def readCode? (config : Config) (text : List Char) : Option (Reading Token) :=
  match text with
  | marker :: code :: rest =>
    if config.tags.standard && config.isMarker marker && isStandardCode code then
      some ⟨.code code, [marker, code], rest⟩
    else none
  | _ => none

/-- Reads a character and the text after it that cannot start a token. -/
def readPlain (config : Config) (first : Char) (after : List Char) : Reading Token :=
  let isPlain := fun c => !config.isSpecial c
  let text := first :: after.takeWhile isPlain
  ⟨.text text, text, after.dropWhile isPlain⟩

/-- Reads a token that needs no close tag.  A `<` starts tags only, even
where it is a marker. -/
def readToken (config : Config) (first : Char) (after : List Char) : Reading Token :=
  let found :=
    if first = '<' then config.readInlineTag? (first :: after)
    else config.readCode? (first :: after)
  found.getD (config.readPlain first after)

/-! ## Readings part the text -/

theorem parts_of_readInlineTag? {config : Config} {text : List Char} {reading : Reading Token}
    (h : config.readInlineTag? text = some reading) : reading.Parts text := by
  unfold readInlineTag? at h
  split at h
  · rename_i hcolor
    cases h
    split at hcolor
    · exact Color.parts_of_readTag hcolor
    · cases hcolor
  · split at h
    · rename_i hword
      cases h
      split at hword
      · exact parts_of_readShorthand hword
      · cases hword
    · cases h

theorem parts_of_readCode? {config : Config} {text : List Char} {reading : Reading Token}
    (h : config.readCode? text = some reading) : reading.Parts text := by
  unfold readCode? at h
  split at h
  · split at h
    · cases h; rfl
    · cases h
  · cases h

theorem parts_readPlain (config : Config) (first : Char) (after : List Char) :
    (config.readPlain first after).Parts (first :: after) := by
  simp [Reading.Parts, readPlain]

/-- A token and what follows it are the text. -/
theorem parts_readToken (config : Config) (first : Char) (after : List Char) :
    (config.readToken first after).Parts (first :: after) := by
  unfold readToken
  dsimp only
  split
  · cases h : config.readInlineTag? (first :: after) with
    | none => exact config.parts_readPlain first after
    | some _ => exact parts_of_readInlineTag? h
  · cases h : config.readCode? (first :: after) with
    | none => exact config.parts_readPlain first after
    | some _ => exact parts_of_readCode? h

/-! ## Readings take something -/

theorem text_ne_nil_of_readInlineTag? {config : Config} {text : List Char} {reading : Reading Token}
    (h : config.readInlineTag? text = some reading) : reading.text ≠ [] := by
  unfold readInlineTag? at h
  split at h
  · rename_i hcolor
    cases h
    split at hcolor
    · exact Color.text_ne_nil_of_readTag hcolor
    · cases hcolor
  · split at h
    · rename_i hword
      cases h
      split at hword
      · exact text_ne_nil_of_readShorthand hword
      · cases hword
    · cases h

theorem text_ne_nil_of_readCode? {config : Config} {text : List Char} {reading : Reading Token}
    (h : config.readCode? text = some reading) : reading.text ≠ [] := by
  unfold readCode? at h
  split at h
  · split at h
    · cases h; simp
    · cases h
  · cases h

/-- No token is empty. -/
theorem text_readToken_ne_nil (config : Config) (first : Char) (after : List Char) :
    (config.readToken first after).text ≠ [] := by
  unfold readToken
  dsimp only
  split
  · cases h : config.readInlineTag? (first :: after) with
    | none => simp [readPlain]
    | some _ => exact text_ne_nil_of_readInlineTag? h
  · cases h : config.readCode? (first :: after) with
    | none => simp [readPlain]
    | some _ => exact text_ne_nil_of_readCode? h

end Config

end ColorMarkup
