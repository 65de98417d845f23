import ColorMarkup.Color.Basic
import ColorMarkup.Text.Blank
import ColorMarkup.Text.Quoted

/-!
# ColorMarkup.Color.Hex

Colors as hexadecimal text.

1. A color is written as `#` and six uppercase digits, two for each channel.
2. It is read with or without the `#`, in either case, from six digits or
   from three, where three digits stand for themselves doubled.
3. A text is refused for the first of its leading six characters that is no
   digit, and otherwise for its length.
-/

namespace ColorMarkup

/-! ## Digits -/

/-- The value of a hexadecimal digit of either case. -/
def hexValue (c : Char) : Nat :=
  if c.isDigit then c.toNat - '0'.toNat
  else if c.isUpper then c.toNat - 'A'.toNat + 10
  else c.toNat - 'a'.toNat + 10

/-- The uppercase hexadecimal digit of a value below 16. -/
def hexDigit (value : Nat) : Char :=
  (Nat.digitChar value).toUpper

/-- Reading a written digit gives its value back. -/
theorem hexValue_hexDigit (value : Fin 16) : hexValue (hexDigit value) = value := by
  revert value; decide

/-- What is written is a digit. -/
theorem isHexDigit_hexDigit (value : Fin 16) : (hexDigit value).isHexDigit = true := by
  revert value; decide

/-! ## Errors -/

/-- Why a text is no color. -/
inductive ColorError where
  /-- A character that is no hexadecimal digit. -/
  | invalidDigit (input : List Char) (digit : Char)
  /-- All digits, but not three or six of them. -/
  | invalidLength (input : List Char) (length : Nat)
deriving DecidableEq, Repr

/-- The words for an error. -/
def ColorError.message : ColorError → List Char
  | .invalidDigit input digit =>
    "invalid hex digit ".toList ++ Text.quoteChar digit ++ " in color: ".toList ++ input
  | .invalidLength input length =>
    "invalid hex color length ".toList ++ Nat.toDigits 10 length ++ ": ".toList ++ input

namespace Color

/-! ## Writing -/

/-- The two digits of a channel. -/
def channelDigits (channel : UInt8) : List Char :=
  [hexDigit (channel.toNat / 16), hexDigit (channel.toNat % 16)]

/-- The six digits of a color. -/
def hexDigits (color : Color) : List Char :=
  channelDigits color.red ++ channelDigits color.green ++ channelDigits color.blue

/-- A color as `#RRGGBB`. -/
def toHex (color : Color) : List Char :=
  '#' :: color.hexDigits

/-! ## Reading -/

/-- A channel from its high and its low digit. -/
def channelOf (high low : Char) : UInt8 :=
  UInt8.ofNat (16 * hexValue high + hexValue low)

/-- A text without the `#` in front, if there is one. -/
def dropHash : List Char → List Char
  | '#' :: rest => rest
  | text => text

/-- Reads a color from three or six digits after an optional `#`. -/
def ofHex (input : List Char) : Except ColorError Color :=
  let digits := dropHash input
  match (digits.take 6).find? (fun c => !c.isHexDigit) with
  | some c => .error (.invalidDigit input c)
  | none =>
    match digits with
    | [r, g, b] => .ok ⟨channelOf r r, channelOf g g, channelOf b b⟩
    | [r, r', g, g', b, b'] => .ok ⟨channelOf r r', channelOf g g', channelOf b b'⟩
    | _ => .error (.invalidLength input digits.length)

/-- Reads a color from a text with white space around it. -/
def ofTrimmedHex (text : List Char) : Except ColorError Color :=
  ofHex (Text.trim text)

end Color

end ColorMarkup
