import ColorMarkup.Marker
import ColorMarkup.TagKinds
import ColorMarkup.Text.Alphanumeric

/-!
# ColorMarkup.Config

What a host decides about markup: the marker it writes, an alternate marker
that is easier to type, and the kinds of markup it reads.

A configuration is valid if the two markers differ and neither can be
mistaken for text or for a part of a tag.
-/

namespace ColorMarkup

/-! ## Errors -/

/-- Why a configuration is not valid. -/
inductive ConfigError where
  /-- Both markers are the same character. -/
  | markerCollision (marker : Char)
  /-- A marker has another meaning in text or tags. -/
  | reservedMarker (marker : Char)
deriving DecidableEq, Repr

/-- The words for an error. -/
def ConfigError.message : ConfigError → List Char
  | .markerCollision marker =>
    "marker and alternate marker are both ".toList ++ Text.quoteChar marker
  | .reservedMarker marker =>
    Text.quoteChar marker ++ " cannot be used as a marker".toList

/-! ## Configurations -/

/-- The settings of a host. -/
structure Config where
  marker : Marker := .sectionSign
  alternate : Char := '&'
  tags : TagKinds := .all
deriving DecidableEq, Repr

namespace Config

/-- Whether a character announces a standard code. -/
def isMarker (config : Config) (c : Char) : Bool :=
  c = config.marker.char || c = config.alternate

/-- The configuration inside a span, where effects are off. -/
def inline (config : Config) : Config :=
  { config with tags := config.tags.inter .inline }

/-! ## Validity -/

/-- The characters that tags are made of, besides letters and digits. -/
def tagSigns : List Char := ['<', '>', '/', '#', ':']

/-- Whether a character has another meaning and so cannot be a marker. -/
def isReserved (c : Char) : Bool :=
  Text.isAlphanumeric c || Text.isBlank c || tagSigns.contains c

/-- Accepts a configuration whose markers differ and are not reserved. -/
def validate (config : Config) : Except ConfigError Unit :=
  if config.marker.char = config.alternate then .error (.markerCollision config.alternate)
  else
    match [config.marker.char, config.alternate].find? isReserved with
    | some c => .error (.reservedMarker c)
    | none => .ok ()

/-- The configuration is accepted. -/
def Valid (config : Config) : Prop := config.validate = .ok ()

instance (config : Config) : Decidable config.Valid :=
  decidable_of_iff (config.validate.isOk = true) <| by
    unfold Valid
    cases config.validate <;> simp [Except.isOk, Except.toBool]

/-- Validity in terms of the two markers. -/
theorem valid_iff {config : Config} :
    config.Valid ↔ config.marker.char ≠ config.alternate ∧
      isReserved config.marker.char = false ∧ isReserved config.alternate = false := by
  unfold Valid validate
  split
  · simp_all
  · cases hm : isReserved config.marker.char <;> cases ha : isReserved config.alternate <;>
      simp_all [List.find?]

/-- The default configuration is valid. -/
theorem valid_default : ({} : Config).Valid := by decide

end Config

end ColorMarkup
