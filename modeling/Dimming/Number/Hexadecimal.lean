import Dimming.Number.Basic

/-!
Whole numbers written in base sixteen. Blanks around the number, a sign, the mark `0x` and
single underscores between digits are accepted, and so are decimal digits of all scripts.
-/

set_option autoImplicit false

namespace Dimming

namespace Hexadecimal

def digitValue? (point : CodePoint) : Option Nat :=
  match point.hexValue? with
  | some value => some value
  | none => point.decimalValue?

/-- The digits of a numeral in which one underscore may stand between two digits. -/
def digits? : Text → Option (List Nat)
  | [] => none
  | [point] => (digitValue? point).map fun digit => [digit]
  | point :: next :: rest => do
      let digit ← digitValue? point
      if next = '_' then
        let digits ← digits? rest
        some (digit :: digits)
      else
        let digits ← digits? (next :: rest)
        some (digit :: digits)

/-- Drops the mark of the base and an underscore behind it. The nought of the mark may be
of any script. -/
def dropMark (text : Text) : Text :=
  match text with
  | nought :: mark :: rest =>
      if digitValue? nought = some 0 ∧ (mark = 'x' ∨ mark = 'X') then
        match rest with
        | point :: digits => if point = '_' then digits else rest
        | [] => []
      else text
  | _ => text

def read (text : Text) : Except NumberFault Int :=
  let (negative, unsigned) := Decimal.readSign text.trimSpace
  match digits? (dropMark unsigned) with
  | none => .error (.notHexadecimal text)
  | some digits =>
      let value : Int := Text.digitsToNat 16 digits
      .ok (if negative then -value else value)

end Hexadecimal

end Dimming
