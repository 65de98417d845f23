import ColorMarkup.Text.Extender
import ColorMarkup.Text.Ignorable
import ColorMarkup.Text.Printable

/-!
# ColorMarkup.Text.Quoted

Quoted characters and texts, as error messages show them.  What would not
print on its own is escaped:

1. the null character, tab, carriage return, line feed and backslash have a
   letter of their own;
2. the quotation mark in use takes a backslash;
3. a character that would not show on its own is written by its code point:
   one that does not print, is ignorable or combines with what stands before it.
-/

namespace ColorMarkup.Text

/-- The letter that stands for a character after a backslash, for the few
that have one. -/
def escapeLetter? (c : Char) : Option Char :=
  match c with
  | '\x00' => some '0'
  | '\t' => some 't'
  | '\r' => some 'r'
  | '\n' => some 'n'
  | '\\' => some '\\'
  | _ => none

/-- A code point in lowercase hexadecimal, such as `\u{301}`. -/
def escapeCode (c : Char) : List Char :=
  ['\\', 'u', '\x7b'] ++ Nat.toDigits 16 c.toNat ++ ['\x7d']

/-- Whether a character shows without help from its neighbours. -/
def showsAlone (c : Char) : Bool :=
  isPrintable c && !isIgnorable c && !isCombining c

/-- A character as it stands between two marks. -/
def escape (mark c : Char) : List Char :=
  match escapeLetter? c with
  | some letter => ['\\', letter]
  | none =>
    if c = mark then ['\\', c]
    else if showsAlone c then [c]
    else escapeCode c

/-- A character between single quotation marks. -/
def quoteChar (c : Char) : List Char :=
  '\'' :: escape '\'' c ++ ['\'']

/-- A text between double quotation marks. -/
def quote (text : List Char) : List Char :=
  '"' :: text.flatMap (escape '"') ++ ['"']

end ColorMarkup.Text
