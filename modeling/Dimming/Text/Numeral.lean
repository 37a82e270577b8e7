import Dimming.Text.Digit

/-!
Whole numbers written in a base: digits most significant first, no leading zero, a
minus sign in front of a negative number.
-/

set_option autoImplicit false

namespace Dimming

namespace Text

/-- Puts the digits of a value in front of a text. The fuel exceeds the number of digits. -/
def pushDigits (base : Nat) : Nat → Nat → Text → Text
  | 0, _, rest => rest
  | fuel + 1, value, rest =>
      let extended := CodePoint.ofDigit (value % base) :: rest
      if value / base = 0 then extended else pushDigits base fuel (value / base) extended

def ofNatInBase (base value : Nat) : Text := pushDigits base (value + 1) value []

def ofNat (value : Nat) : Text := ofNatInBase 10 value

def ofInt : Int → Text
  | .ofNat value => ofNat value
  | .negSucc value => '-' :: ofNat (value + 1)

/-- Hexadecimal digits in lower case, filled up with zeros to a least length. -/
def ofNatHex (width value : Nat) : Text := padLeft width '0' (ofNatInBase 16 value)

def digitsToNat (base : Nat) (digits : List Nat) : Nat :=
  digits.foldl (fun value digit => value * base + digit) 0

end Text

end Dimming
