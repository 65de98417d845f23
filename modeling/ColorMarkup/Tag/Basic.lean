import ColorMarkup.Color.Hex

/-!
# ColorMarkup.Tag.Basic

What reading a tag from the front of a text gives: the tag's meaning, the
text it takes up and the text after it, or the reason why there is none.
-/

namespace ColorMarkup

/-! ## Readings -/

/-- Something read from the front of a text. -/
structure Reading (α : Type) where
  value : α
  /-- The part of the text that was read. -/
  text : List Char
  /-- The part of the text after it. -/
  rest : List Char
deriving DecidableEq, Repr

/-- The reading parts a given text. -/
def Reading.Parts {α : Type} (reading : Reading α) (text : List Char) : Prop :=
  text = reading.text ++ reading.rest

/-! ## Errors -/

/-- What a tag lacks at the first place where it goes wrong. -/
inductive TagFault where
  /-- One certain character. -/
  | character
  /-- One certain word. -/
  | word
  /-- At least one character of a class. -/
  | run
deriving DecidableEq, Repr

/-- The name of a fault. -/
def TagFault.name : TagFault → List Char
  | .character => "Char".toList
  | .word => "Tag".toList
  | .run => "TakeWhile1".toList

/-- Why a text does not start with an effect tag. -/
inductive TagError where
  /-- The text is not shaped like the tag; `excerpt` is how it starts. -/
  | malformed (fault : TagFault) (excerpt : List Char)
  /-- A gradient needs two color stops. -/
  | tooFewStops (count : Nat)
  /-- A color stop is no color. -/
  | invalidStop (error : ColorError)
  /-- A number is too large. -/
  | invalidNumber (digits : List Char)
deriving DecidableEq, Repr

/-- How much of a text an error shows. -/
def excerptLength : Nat := 32

/-- The error for a text that is not shaped like a tag. -/
def TagError.ofFault (fault : TagFault) (text : List Char) : TagError :=
  .malformed fault (text.take excerptLength)

/-- The words for an error. -/
def TagError.message : TagError → List Char
  | .malformed fault excerpt =>
    "malformed tag: ".toList ++ fault.name ++ " in ".toList ++ Text.quote excerpt
  | .tooFewStops count =>
    "gradient needs at least 2 color stops, found ".toList ++ Nat.toDigits 10 count
  | .invalidStop error => "invalid color stop: ".toList ++ error.message
  | .invalidNumber digits => "invalid number: ".toList ++ digits

end ColorMarkup
