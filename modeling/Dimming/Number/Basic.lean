import Dimming.Number.Decimal

/-!
Numbers of a settings file: whole numbers of any size and floating-point numbers, which
stay apart even when they are equal.
-/

set_option autoImplicit false

namespace Dimming

inductive NumberFault where
  | quotientTooLarge
  | wholeTooLarge
  | wholeOfNothing
  | wholeOfInfinity
  | notDecimal (text : Text)
  | notHexadecimal (text : Text)
  | tooManyDigits
deriving DecidableEq

inductive Number where
  | int (value : Int)
  | double (value : Double)
deriving DecidableEq

namespace Number

/-- Whether a whole number has no more digits than a limit allows, if there is one. -/
def fits (limit : Option Nat) : Number → Bool
  | .int value => limit.all fun most => decide ((Text.ofNat value.natAbs).length ≤ most)
  | .double _ => true

def toText : Number → Text
  | .int value => Text.ofInt value
  | .double value => value.toText

def between (low high : Int) : Number → Bool
  | .int value => decide (low ≤ value ∧ value ≤ high)
  | .double value => value.between low high

/-- The order of numbers, exact across the two kinds. -/
def lt : Number → Number → Bool
  | .int left, .int right => decide (left < right)
  | .double left, .double right => left.lt right
  | .int left, .double right =>
      match right with
      | .nan => false
      | .infinity negative => !negative
      | .finite negative magnitude =>
          let units : Int := if negative then -(magnitude.units : Int) else magnitude.units
          decide (left * Double.unitsPerOne < units)
  | .double left, .int right =>
      match left with
      | .nan => false
      | .infinity negative => negative
      | .finite negative magnitude =>
          let units : Int := if negative then -(magnitude.units : Int) else magnitude.units
          decide (units < right * Double.unitsPerOne)

/-- The first of two numbers unless the second is above it. -/
def max (first second : Number) : Number := if first.lt second then second else first

/-- The first of two numbers unless the second is below it. -/
def min (first second : Number) : Number := if second.lt first then second else first

def inRange (fault : NumberFault) (result : Double) : Except NumberFault Double :=
  match result with
  | .infinity _ => .error fault
  | .nan => .ok result
  | .finite _ _ => .ok result

/-- The quotient by a positive whole number as a floating-point number, rounded once. -/
def divNat (number : Number) (divisor : Nat) : Except NumberFault Double :=
  match number with
  | .double value => .ok (value.divNat divisor)
  | .int value =>
      inRange .quotientTooLarge
        (Double.ofQuotient (decide (value < 0)) (value.natAbs * Double.unitsPerOne) divisor)

def doubleOfInt (value : Int) : Except NumberFault Double :=
  inRange .wholeTooLarge (Double.ofInt value)

/-- A rounding to whole numbers, which what is no number or infinite does not have. -/
def toWhole (round? : Double → Option Int) (number : Double) : Except NumberFault Int :=
  match round? number with
  | some whole => .ok whole
  | none => if number = .nan then .error .wholeOfNothing else .error .wholeOfInfinity

end Number

def Double.ofText (text : Text) : Except NumberFault Double :=
  match Double.ofText? text with
  | some number => .ok number
  | none => .error (.notDecimal text)

end Dimming
