import Dimming.Text.CodePoint

/-!
Text measured in sixteen-bit units: a supplementary code point takes two, every other one.
-/

set_option autoImplicit false

namespace Dimming

namespace CodePoint

def utf16Units (point : CodePoint) : Nat := if point.value < 0x10000 then 1 else 2

/-- The high and the low surrogate of a supplementary code point, or the point alone. -/
def toUtf16 (point : CodePoint) : List Nat :=
  if point.value < 0x10000 then [point.value]
  else
    let offset := point.value - 0x10000
    [0xD800 + offset / 0x400, 0xDC00 + offset % 0x400]

end CodePoint

namespace Text

def utf16Length (text : Text) : Nat :=
  text.foldr (fun point length => point.utf16Units + length) 0

end Text

end Dimming
