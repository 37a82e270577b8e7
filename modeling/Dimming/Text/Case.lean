import Dimming.Text.CodePoint

/-!
Upper case as far as it lies in ASCII: besides a to z, the dotless i, the long s, the sharp
s and the Latin ligatures have capitals there. Every other code point is left alone, which
changes no comparison with an ASCII word.
-/

set_option autoImplicit false

namespace Dimming

namespace CodePoint

def capitalBeyondAscii? (point : CodePoint) : Option Text :=
  let table : List (Nat × Text) :=
    [(0xdf, "SS"), (0x131, "I"), (0x17f, "S"), (0xfb00, "FF"), (0xfb01, "FI"), (0xfb02, "FL"),
      (0xfb03, "FFI"), (0xfb04, "FFL"), (0xfb05, "ST"), (0xfb06, "ST")]
  (table.find? (·.1 = point.value)).map (·.2)

def toAsciiUpper (point : CodePoint) : CodePoint :=
  if lower : 97 ≤ point.value ∧ point.value ≤ 122 then ⟨point.value - 32, by omega⟩ else point

end CodePoint

namespace Text

def toUpper (text : Text) : Text :=
  text.flatMap fun point => point.capitalBeyondAscii?.getD [point.toAsciiUpper]

end Text

end Dimming
