import Dimming.Text.CodePoint

/-!
White space in two senses: that of Unicode, and the wider one that also counts the four
separators 0x1c to 0x1f; and the removal of it at both ends of a text.
-/

set_option autoImplicit false

namespace Dimming

/-- The white space of Unicode. -/
def CodePoint.isSpace (point : CodePoint) : Bool :=
  let value := point.value
  decide (9 ≤ value ∧ value ≤ 13) || value == 0x20 || value == 0x85 || value == 0xa0 ||
    value == 0x1680 || decide (0x2000 ≤ value ∧ value ≤ 0x200a) || value == 0x2028 ||
    value == 0x2029 || value == 0x202f || value == 0x205f || value == 0x3000

/-- White space in the wide sense, with the separators 0x1c to 0x1f. -/
def CodePoint.isBlank (point : CodePoint) : Bool :=
  point.isSpace || decide (0x1c ≤ point.value ∧ point.value ≤ 0x1f)

namespace Text

def trim (dropped : CodePoint → Bool) (text : Text) : Text :=
  ((text.dropWhile dropped).reverse.dropWhile dropped).reverse

def trimBlanks (text : Text) : Text := trim CodePoint.isBlank text

def trimSpace (text : Text) : Text := trim CodePoint.isSpace text

end Text

end Dimming
