/-!
# ColorMarkup.Code

The standard codes of the host, each one character in either case:

1. `0` to `9` and `a` to `f` choose a color;
2. `k` to `o` switch on a format;
3. `r` resets all formats.

A color code also ends the formats that are on, so where every glyph gets a
color of its own, the formats have to be repeated after each color.
-/

namespace ColorMarkup

/-! ## Formats -/

/-- The formats of a glyph. -/
inductive Format where
  | obfuscated
  | bold
  | strikethrough
  | underline
  | italic
deriving DecidableEq, Repr

namespace Format

/-- All formats, in the order in which their codes are written. -/
def all : List Format := [obfuscated, bold, strikethrough, underline, italic]

/-- The code character of a format. -/
def code : Format → Char
  | obfuscated => 'k'
  | bold => 'l'
  | strikethrough => 'm'
  | underline => 'n'
  | italic => 'o'

/-- The bit that stands for a format in a number. -/
def bit : Format → Nat
  | obfuscated => 1
  | bold => 2
  | strikethrough => 4
  | underline => 8
  | italic => 16

/-- The format with a given code, in either case. -/
def ofCode? (code : Char) : Option Format :=
  all.find? fun format => format.code = code.toLower

theorem mem_all (format : Format) : format ∈ all := by
  cases format <;> decide

/-- Every format is found by its code. -/
theorem ofCode?_code (format : Format) : ofCode? format.code = some format := by
  cases format <;> decide

end Format

/-- A set of formats. -/
structure Formats where
  obfuscated : Bool := false
  bold : Bool := false
  strikethrough : Bool := false
  underline : Bool := false
  italic : Bool := false
deriving DecidableEq, Repr

namespace Formats

/-- No format. -/
def empty : Formats := {}

/-- Whether a format is in the set. -/
def contains (formats : Formats) : Format → Bool
  | .obfuscated => formats.obfuscated
  | .bold => formats.bold
  | .strikethrough => formats.strikethrough
  | .underline => formats.underline
  | .italic => formats.italic

/-- The set with one more format. -/
def insert (formats : Formats) : Format → Formats
  | .obfuscated => { formats with obfuscated := true }
  | .bold => { formats with bold := true }
  | .strikethrough => { formats with strikethrough := true }
  | .underline => { formats with underline := true }
  | .italic => { formats with italic := true }

/-- The members in the order of their codes. -/
def toList (formats : Formats) : List Format :=
  Format.all.filter formats.contains

/-- The codes of the members. -/
def codes (formats : Formats) : List Char :=
  formats.toList.map Format.code

/-- The set as a number, one bit for each member. -/
def bits (formats : Formats) : Nat :=
  formats.toList.foldl (fun total format => total + format.bit) 0

@[simp] theorem contains_empty (format : Format) : empty.contains format = false := by
  cases format <;> rfl

/-- Insertion adds the one format. -/
@[simp] theorem contains_insert (formats : Formats) (added format : Format) :
    (formats.insert added).contains format =
      (formats.contains format || decide (format = added)) := by
  cases added <;> cases format <;> simp [insert, contains]

/-- Membership in the list is membership in the set. -/
@[simp] theorem mem_toList (formats : Formats) (format : Format) :
    format ∈ formats.toList ↔ formats.contains format = true := by
  simp [toList, Format.mem_all]

end Formats

/-! ## Codes -/

/-- What a code does. -/
inductive CodeKind where
  | color
  | format (format : Format)
  | reset
deriving DecidableEq, Repr

/-- The kind of a code character, if it is a standard code. -/
def CodeKind.of? (code : Char) : Option CodeKind :=
  let lower := code.toLower
  if lower.isDigit || ('a' ≤ lower && lower ≤ 'f') then some .color
  else if lower = 'r' then some .reset
  else (Format.ofCode? lower).map .format

/-- Whether a character may stand after a marker as a standard code. -/
def isStandardCode (code : Char) : Bool :=
  (CodeKind.of? code).isSome

/-- The formats that are on after a code.  Inside an effect a color code
changes nothing, since the effect chooses the colors. -/
def Formats.after (formats : Formats) : CodeKind → Formats
  | .color => formats
  | .format added => formats.insert added
  | .reset => empty

end ColorMarkup
