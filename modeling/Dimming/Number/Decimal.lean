import Dimming.Number.Double
import Dimming.Text.Blank
import Dimming.Text.Numeral

/-!
Decimal notation of floating-point numbers. Reading rounds once, correctly, whatever the
number of digits. Writing takes the fewest digits that read back to the same number and,
of these, the nearest to it; it is positional while the first digit stands between the
fourth place after the point and the sixteenth before it.
-/

set_option autoImplicit false

namespace Dimming

/-- The number coefficient · 10 ^ exponent. -/
structure Decimal where
  coefficient : Nat
  exponent : Int
deriving DecidableEq

namespace Decimal

/-- Rounds to the nearest floating-point number. Numbers of more than 310 places before
the point are infinite and those below 10 ^ -330 are zero, so no larger power of ten is
ever formed. -/
def toDouble (negative : Bool) (decimal : Decimal) : Double :=
  let places := (Text.ofNat decimal.coefficient).length + decimal.exponent
  if decimal.coefficient = 0 then Double.zero negative
  else if 310 < places then .infinity negative
  else if places < -330 then Double.zero negative
  else
    let numerator := decimal.coefficient * Double.unitsPerOne
    if 0 ≤ decimal.exponent then
      Double.ofQuotient negative (numerator * Nat.pow 10 decimal.exponent.toNat) 1
    else Double.ofQuotient negative numerator (Nat.pow 10 (-decimal.exponent).toNat)

def readDigits (digit? : CodePoint → Option Nat) : Text → List Nat × Text
  | [] => ([], [])
  | point :: rest =>
      match digit? point with
      | none => ([], point :: rest)
      | some digit =>
          let (digits, rest) := readDigits digit? rest
          (digit :: digits, rest)

/-- Reads an optional sign; the flag says that it is a minus. -/
def readSign : Text → Bool × Text
  | [] => (false, [])
  | point :: rest =>
      if point = '-' then (true, rest)
      else if point = '+' then (false, rest)
      else (false, point :: rest)

/-- Reads an exponent: its mark, an optional sign and digits. An incomplete one is left
unread. -/
def readExponent (digit? : CodePoint → Option Nat) (text : Text) : Option (Int × Text) :=
  match text with
  | [] => none
  | mark :: rest =>
      if mark = 'e' || mark = 'E' then
        let (negative, rest) := readSign rest
        match readDigits digit? rest with
        | ([], _) => none
        | (digits, rest) =>
            let value : Int := Text.digitsToNat 10 digits
            some (if negative then -value else value, rest)
      else none

def ofDigits (whole fraction : List Nat) (exponent : Int) : Decimal :=
  ⟨Text.digitsToNat 10 (whole ++ fraction), exponent - fraction.length⟩

/-- Reads the longest unsigned decimal at the beginning of a text: digits with an optional
point among, before or behind them, and an optional exponent. -/
def read (digit? : CodePoint → Option Nat) (text : Text) : Option (Decimal × Text) :=
  let (whole, afterWhole) := readDigits digit? text
  let (fraction, afterFraction) :=
    match afterWhole with
    | [] => ([], [])
    | point :: rest =>
        if point = '.' then
          let (fraction, afterFraction) := readDigits digit? rest
          if whole.isEmpty && fraction.isEmpty then ([], point :: rest)
          else (fraction, afterFraction)
        else ([], point :: rest)
  if whole.isEmpty && fraction.isEmpty then none
  else
    match readExponent digit? afterFraction with
    | none => some (ofDigits whole fraction 0, afterFraction)
    | some (exponent, rest) => some (ofDigits whole fraction exponent, rest)

end Decimal

namespace Double

/-- Drops the underscores of a numeral, each of which has to stand between two digits. -/
def dropUnderscores : Bool → Text → Option Text
  | _, [] => some []
  | afterDigit, point :: rest =>
      if point = '_' then
        match rest with
        | next :: _ =>
            if afterDigit && next.isDecimalDigit then dropUnderscores false rest else none
        | [] => none
      else (dropUnderscores point.isDecimalDigit rest).map (point :: ·)

def ofName? (negative : Bool) (name : Text) : Option Double :=
  if name = Text.ofString "inf" ∨ name = Text.ofString "infinity" then some (.infinity negative)
  else if name = Text.ofString "nan" then some .nan
  else none

/-- Reads a whole text as a number: blanks around it, a sign, then a name in any letter
case or a decimal whose digits may be of any script. -/
def ofText? (text : Text) : Option Double :=
  let (negative, unsigned) := Decimal.readSign (text.trimSpace)
  match ofName? negative unsigned.toAsciiLower with
  | some number => some number
  | none => do
      let plain ← dropUnderscores false unsigned
      let (decimal, rest) ← Decimal.read CodePoint.decimalValue? plain
      if rest.isEmpty then some (decimal.toDouble negative) else none

/-- Whether a decimal in units of 10 ^ -1074 rounds to a given number of binary units. -/
@[irreducible]
def readsBack (units scaled : Nat) : Bool := roundQuotient scaled (Nat.pow 5 1074) == units

/-- The better of the two neighbours of a number on the grid of multiples of a scale, among
those that read back. The number is given in units of 10 ^ -1074. -/
def onGrid? (units exact scale : Nat) : Option Nat :=
  let below := exact / scale
  let excess := 2 * (exact - below * scale)
  let lower := readsBack units (below * scale)
  let upper := readsBack units ((below + 1) * scale)
  if lower && upper then
    if excess < scale ∨ (excess = scale ∧ below % 2 = 0) then some below else some (below + 1)
  else if lower then some below
  else if upper then some (below + 1)
  else none

/-- Looks for a coefficient on ever finer grids; the exact decimal expansion stands at the end. -/
def onGrids (search : Nat → Option Nat) (exact : Nat) : Nat → Nat → Decimal
  | 0, _ => ⟨exact, -1074⟩
  | grids + 1, places =>
      match search places with
      | some coefficient => ⟨coefficient, (places : Int) - 1074⟩
      | none => onGrids search exact grids (places - 1)

/-- The shortest decimal that reads back to a positive magnitude. Seventeen digits always
suffice. -/
def shortest (magnitude : Magnitude) : Decimal :=
  let exact := magnitude.units * Nat.pow 5 1074
  let search (places : Nat) := onGrid? magnitude.units exact (Nat.pow 10 places)
  onGrids search exact 17 ((Text.ofNat exact).length - 1)

def dropFinalZeros (digits : Text) : Text :=
  (digits.reverse.dropWhile (CodePoint.is '0')).reverse

def exponentText (exponent : Int) : Text :=
  let sign : CodePoint := if exponent < 0 then '-' else '+'
  sign :: Text.padLeft 2 '0' (Text.ofNat exponent.natAbs)

/-- Lays out significant digits, the first of which stands before the point in scientific
notation. -/
def layOut (digits : Text) (exponent : Int) : Text :=
  if exponent < -4 ∨ 16 ≤ exponent then
    match digits with
    | [] => []
    | first :: [] => first :: ("e" ++ exponentText exponent)
    | first :: others => first :: ("." ++ others ++ "e" ++ exponentText exponent)
  else if exponent < 0 then
    "0." ++ List.replicate (-exponent - 1).toNat (CodePoint.ofChar '0') ++ digits
  else
    let whole := exponent.toNat + 1
    if digits.length ≤ whole then
      digits ++ List.replicate (whole - digits.length) (CodePoint.ofChar '0') ++ ".0"
    else digits.take whole ++ "." ++ digits.drop whole

def magnitudeText (magnitude : Magnitude) : Text :=
  if magnitude.units = 0 then "0.0"
  else
    let decimal := shortest magnitude
    let digits := Text.ofNat decimal.coefficient
    layOut (dropFinalZeros digits) (decimal.exponent + digits.length - 1)

def toText : Double → Text
  | .nan => "nan"
  | .infinity negative => if negative then "-inf" else "inf"
  | .finite negative magnitude =>
      if negative then '-' :: magnitudeText magnitude else magnitudeText magnitude

end Double

end Dimming
