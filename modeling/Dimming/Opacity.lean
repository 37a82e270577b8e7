import Dimming.Number.Basic
import Dimming.Text.Case

/-!
Opacity in per cent: its alpha channel, its text, and the check of what a user typed. The
number at the beginning of the input decides whether it is out of range; only then is the
form of the whole input looked at.
-/

set_option autoImplicit false

namespace Dimming

namespace Opacity

/-- The nearest whole alpha between 0 and 255, halves upwards. Every step of the arithmetic
is rounded as a floating-point number. -/
def alpha (opacity : Number) : Except NumberFault Nat := do
  let fraction ← opacity.divNat 100
  let half : Double := (Decimal.mk 5 (-1)).toDouble false
  let scaled := fraction * Double.ofInt 255 + half
  let whole ← Number.toWhole Double.floor? scaled
  return min whole.toNat 255

def alphaText (alpha : Nat) : Text := (Text.ofNatHex 2 alpha).map CodePoint.toAsciiUpper

def alphaHex (opacity : Number) : Except NumberFault Text := (alpha opacity).map alphaText

/-- A whole number of per cent has no fraction, however it is stored. -/
def display : Number → Text
  | .int value => Text.ofInt value
  | .double value =>
      match value.toInt? with
      | some whole => Text.ofInt whole
      | none => value.toText

inductive Problem where
  | outOfRange
  | notPlainNumber
deriving DecidableEq

namespace Problem

def message : Problem → Text
  | .outOfRange => "Please enter a number between 0 and 100"
  | .notPlainNumber => "Please don't include special characters or letters"

end Problem

/-- The longest number at the beginning of a text, behind blanks. -/
def leadingNumber? (text : Text) : Option Double :=
  let (negative, unsigned) := Decimal.readSign (text.dropWhile CodePoint.isBlank)
  if (Text.ofString "Infinity").isPrefixOf unsigned then some (.infinity negative)
  else (Decimal.read CodePoint.decimalValue? unsigned).map fun (decimal, _) =>
    decimal.toDouble negative

/-- Digits with an optional minus in front and an optional point and more digits behind. -/
def isPlainNumber (text : Text) : Bool :=
  let unsigned := match text with
    | [] => []
    | sign :: rest => if sign = '-' then rest else sign :: rest
  let whole := unsigned.takeWhile CodePoint.isDecimalDigit
  match unsigned.dropWhile CodePoint.isDecimalDigit with
  | [] => !whole.isEmpty
  | point :: fraction =>
      !whole.isEmpty && point = '.' && !fraction.isEmpty && fraction.all CodePoint.isDecimalDigit

def problem? (text : Text) : Option Problem :=
  let isOutside := (leadingNumber? text).any fun number => !number.between 0 100
  if text.isEmpty || isOutside then some .outOfRange
  else if isPlainNumber text.trimBlanks then none
  else some .notPlainNumber

end Opacity

end Dimming
