/-!
# ColorMarkup.Text.Basic

Text is a list of characters.  This module measures it in UTF-8 bytes and trims
it.
-/

namespace ColorMarkup.Text

/-! ## Size in bytes -/

/-- The number of bytes a text takes in UTF-8. -/
def byteSize (text : List Char) : Nat :=
  text.foldl (fun size c => size + c.utf8Size) 0

private theorem foldl_utf8Size (text : List Char) (n : Nat) :
    text.foldl (fun size c => size + c.utf8Size) n = n + byteSize text := by
  induction text generalizing n with
  | nil => rfl
  | cons c rest ih =>
    simp only [byteSize, List.foldl_cons]
    rw [ih, ih (0 + c.utf8Size)]
    omega

@[simp] theorem byteSize_nil : byteSize [] = 0 := rfl

@[simp] theorem byteSize_cons (c : Char) (text : List Char) :
    byteSize (c :: text) = c.utf8Size + byteSize text := by
  rw [byteSize, List.foldl_cons, foldl_utf8Size]
  omega

theorem byteSize_append (a b : List Char) : byteSize (a ++ b) = byteSize a + byteSize b := by
  induction a with
  | nil => simp
  | cons c rest ih => simp [ih, Nat.add_assoc]

/-! ## Trimming -/

/-- Drops the characters of a class from both ends of a text. -/
def trimBoth (isOuter : Char → Bool) (text : List Char) : List Char :=
  ((text.dropWhile isOuter).reverse.dropWhile isOuter).reverse

end ColorMarkup.Text
